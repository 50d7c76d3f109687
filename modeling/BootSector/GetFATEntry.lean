import BootSector.Floppy
import BootSector.ReadOneSector

/-!
# GetFATEntry

The routine finds the byte offset of an entry in the table, reads the two
sectors that may hold it into the buffer at 8000h, and unpacks the word there
by the parity kept in `[Odd]`.
-/

namespace BootSector.GetFATEntry

open RealMode Bios Program Floppy Execution Assertion

attribute [local simp] Walk step code lineAt fatLines perform resume Machine.faults
  Machine.execute Machine.push Machine.top Machine.load8 Machine.store8 Machine.load16
  Machine.store16 Machine.value8 Machine.value16 Machine.reg8 Machine.setReg8 Machine.reg16
  Machine.setReg16 Machine.segment Machine.setSegment Machine.offset Machine.withFlags
  Machine.aluResult Machine.aluCarry Machine.dxax Machine.stores Machine.stored8
  Machine.stored16 Machine.lowered Machine.asks Instr.interrupts Good Ended LabelSafe LineSafe

attribute [local simp] start searchInRootDirectoryBegin searchForLoaderBin noLoaderBin
  fileNameFound goOnLoadingFile fileLoaded readOneSector getFATEntry even even2
  bpbBytesPerSec odd rootDirectorySizeForLoop sectorNumberOfFAT1Start

attribute [-simp] BitVec.toNat_add BitVec.toNat_sub

variable {floor : Nat} {allowed : Allowed} {bios : Services}
  {disk : Nat → Byte} {total : Prop} {failures : Nat → Nat}

structure Called (floor cluster : Nat) (config : Config) : Prop where
  ready : Ready config
  ip : config.machine.ip = getFATEntry
  room : floor + 14 ≤ config.machine.sp.toNat
  below : config.machine.sp.toNat ≤ 0x7bfe
  ax : config.machine.ax = BitVec.ofNat 16 cluster

/-- The first of the two sectors read for a cluster. -/
def fatSector (cluster : Nat) : Nat := 3 * cluster / 2 / 512 + 1

def fatRequest (cluster : Nat) : Request := .ofLba 2 (fatSector cluster) 0#16 0x8000#16

def fatCall (cluster : Nat) : Bios.Call :=
  ⟨readOneSector, 0x7da1#16, BitVec.ofNat 16 (fatSector cluster)⟩

section Walks

variable {config : Config} {after : Config → Prop}

def saveOf (memory : Memory) (sp es bx ax : Word) : Memory :=
  ((memory.setWord 0#16 (sp - 2#16) es).setWord 0#16 (sp - 4#16) bx).setWord 0#16 (sp - 6#16) ax

theorem triple {cluster : Nat} (called : Called floor cluster config) (word : cluster < 65536)
    (final : ∀ carry, after
      { config with
        machine := { config.machine with
          ip := 0x7d81#16
          es := 0#16
          bx := 2#16
          ax := BitVec.ofNat 16 (cluster * 3)
          dx := BitVec.ofNat 16 (cluster * 3 / 65536)
          sp := config.machine.sp - 4#16
          carry := carry
          memory := (saveOf config.machine.memory config.machine.sp config.machine.es
            config.machine.bx config.machine.ax).setByte 0#16 odd 0#8 } }) :
    Walk (step code bios) (Good floor allowed) after 10 config := by
  obtain ⟨⟨fault, cs, ds, ss, intact⟩, ip, room, below, ax⟩ := called
  obtain ⟨⟨axW, bx, cx, dx, si, di, bp, sp, espHigh, csW, dsW, es, ssW, ipW, carry, zero,
    direction, memory⟩, faultB, call, log⟩ := config
  simp only at fault cs ds ss ip ax room below final
  subst fault cs ds ss ip
  have two : sp - 2#16 - 2#16 = sp - 4#16 := sub_sub ..
  have four : sp - 4#16 - 2#16 = sp - 6#16 := sub_sub ..
  have six : sp - 6#16 + 2#16 = sp - 4#16 := sub_add ..
  have axNat : axW.toNat = cluster := by
    simp [ax]
    omega
  simp only [saveOf, odd] at final
  simp [two, four, six, axNat]
  have slots : ∀ depth : Word, 2 ≤ depth.toNat → depth.toNat ≤ 6 → _ :=
    fun depth positive small => stack_slot depth (by omega : floor + _ ≤ sp.toNat)
      positive (by omega)
  exact ⟨slots 2#16 (by decide) (by decide), slots 4#16 (by decide) (by decide),
    slots 6#16 (by decide) (by decide), .inr (.inl (by decide)), final _⟩

theorem halve (cluster : Nat) (fault : config.fault = false) (cs : config.machine.cs = 0#16)
    (ip : config.machine.ip = 0x7d81#16) (bx : config.machine.bx = 2#16)
    (ax : config.machine.ax = BitVec.ofNat 16 (cluster * 3))
    (dx : config.machine.dx = BitVec.ofNat 16 (cluster * 3 / 65536)) (small : cluster < 43691)
    (final : after
      { config with
        machine := { config.machine with
          ip := 0x7d83#16
          ax := BitVec.ofNat 16 (3 * cluster / 2)
          dx := BitVec.ofNat 16 (cluster % 2) } }) :
    Walk (step code bios) (Good floor allowed) after 1 config := by
  obtain ⟨⟨axW, bxW, cx, dxW, si, di, bp, sp, espHigh, csW, ds, es, ss, ipW, carry, zero,
    direction, memory⟩, faultB, call, log⟩ := config
  simp only at fault cs ip bx ax dx final
  subst fault cs ip bx ax dx
  have dxax : 65536 * (cluster * 3 / 65536 % 65536) + cluster * 3 % 65536 = cluster * 3 := by
    omega
  have quotient : ¬65536 ≤ 3 * cluster / 2 := by omega
  have half : cluster * 3 / 2 = 3 * cluster / 2 := by omega
  have parity : cluster * 3 % 2 = cluster % 2 := by omega
  simpa [dxax, quotient, half, parity] using final

/-- `[Odd]` keeps the parity, whichever way `JZ Even` goes. -/
theorem note_parity {cluster : Nat} {saved : Memory} (fault : config.fault = false)
    (cs : config.machine.cs = 0#16) (ds : config.machine.ds = 0#16)
    (ip : config.machine.ip = 0x7d83#16) (dx : config.machine.dx = BitVec.ofNat 16 (cluster % 2))
    (memory : config.machine.memory = saved.setByte 0#16 odd 0#8)
    (final : ∀ carry zero, Runs (step code bios) total (Good floor allowed)
      { config with
        machine := { config.machine with
          ip := even
          carry := carry
          zero := zero
          memory := saved.setByte 0#16 odd (BitVec.ofNat 8 (cluster % 2)) } } after) :
    Runs (step code bios) total (Good floor allowed) config after := by
  obtain ⟨⟨ax, bx, cx, dxW, si, di, bp, sp, espHigh, csW, dsW, es, ss, ipW, carry, zero,
    direction, memoryW⟩, faultB, call, log⟩ := config
  simp only at fault cs ds ip dx memory final
  subst fault cs ds ip dx memory
  rcases Nat.mod_two_eq_zero_or_one cluster with even | odd
  · apply Runs.walk 2
    simp only [even] at final
    simpa [even] using final _ _
  · apply Runs.walk 3
    simp only [odd] at final
    simp [odd, Memory.setByte, Function.update_idem]
    refine ⟨.inr (.inl (by decide)), ?_⟩
    simpa [Memory.setByte] using final _ _

theorem call_read (offset : Nat) (fault : config.fault = false)
    (cs : config.machine.cs = 0#16) (ds : config.machine.ds = 0#16)
    (ss : config.machine.ss = 0#16) (ip : config.machine.ip = even)
    (ax : config.machine.ax.toNat = offset)
    (room : floor + 4 ≤ config.machine.sp.toNat) (below : config.machine.sp.toNat ≤ 0x7c00)
    (bytes : config.machine.memory.word 0#16 bpbBytesPerSec = 512#16)
    (final : ∀ carry zero, after
      { config with
        machine := { config.machine with
          ip := readOneSector
          ax := BitVec.ofNat 16 (offset / 512 + 1)
          bx := 0x8000#16
          cx := wordOf (highByte config.machine.cx) 2#8
          dx := BitVec.ofNat 16 (offset % 512)
          sp := config.machine.sp - 4#16
          carry := carry
          zero := zero
          memory := (config.machine.memory.setWord 0#16 (config.machine.sp - 2#16)
            (BitVec.ofNat 16 (offset % 512))).setWord 0#16 (config.machine.sp - 4#16) 0x7da1#16 }
        call := ⟨readOneSector, 0x7da1#16, BitVec.ofNat 16 (offset / 512 + 1)⟩ }) :
    Walk (step code bios) (Good floor allowed) after 8 config := by
  obtain ⟨⟨axW, bx, cx, dx, si, di, bp, sp, espHigh, csW, dsW, es, ssW, ipW, carry, zero,
    direction, memory⟩, faultB, call, log⟩ := config
  simp only at fault cs ds ss ip ax room below bytes final
  subst fault cs ds ss ip
  have two : sp - 2#16 - 2#16 = sp - 4#16 := sub_sub ..
  have bound := axW.isLt
  have quotient : ¬65536 ≤ offset / 512 := by omega
  have slots : ∀ depth : Word, 2 ≤ depth.toNat → depth.toNat ≤ 4 → _ :=
    fun depth positive small => stack_slot depth (by omega : floor + _ ≤ sp.toNat)
      positive below
  simp only [bpbBytesPerSec] at bytes
  simp [two, ax, bytes, quotient, ← BitVec.ofNat_add]
  exact ⟨slots 2#16 (by decide) (by decide), slots 4#16 (by decide) (by decide), final _ _⟩

def unpacked (cluster : Nat) (word : Word) : Word :=
  (if cluster % 2 = 1 then word >>> 4 else word) &&& 0xfff#16

/-- The lines after the read: unpack, restore, return. -/
theorem unpack (cluster offset : Nat) (word : Word) (fault : config.fault = false)
    (cs : config.machine.cs = 0#16) (ds : config.machine.ds = 0#16)
    (ss : config.machine.ss = 0#16) (es : config.machine.es = 0#16)
    (ip : config.machine.ip = 0x7da1#16) (bx : config.machine.bx = 0x8000#16)
    (parity : config.machine.memory 0x7dbb = BitVec.ofNat 8 (cluster % 2))
    (saved : config.machine.top = BitVec.ofNat 16 offset)
    (there : config.machine.memory.word 0#16 (0x8000#16 + BitVec.ofNat 16 offset) = word)
    (final : ∀ dx carry zero, Runs (step code bios) total (Good floor allowed)
      { config with
        machine := { config.machine with
          ip := config.machine.memory.word 0#16 (config.machine.sp + 6#16)
          ax := unpacked cluster word
          bx := config.machine.memory.word 0#16 (config.machine.sp + 2#16)
          dx := dx
          es := config.machine.memory.word 0#16 (config.machine.sp + 4#16)
          sp := config.machine.sp + 8#16
          carry := carry
          zero := zero } } after) :
    Runs (step code bios) total (Good floor allowed) config after := by
  obtain ⟨⟨ax, bxW, cx, dx, si, di, bp, sp, espHigh, csW, dsW, esW, ssW, ipW, carry, zero,
    direction, memory⟩, faultB, call, log⟩ := config
  simp only at fault cs ds ss es ip bx parity there final
  subst fault cs ds ss es ip bx
  simp only [Machine.top] at saved
  have four : sp + 2#16 + 2#16 = sp + 4#16 := add_assoc ..
  have six : sp + 4#16 + 2#16 = sp + 6#16 := add_assoc ..
  have eight : sp + 6#16 + 2#16 = sp + 8#16 := add_assoc ..
  rcases Nat.mod_two_eq_zero_or_one cluster with even | odd
  · apply Runs.walk 9
    simp only [unpacked, even, if_neg Nat.zero_ne_one] at final parity
    simpa [parity, saved, there, four, six, eight] using final _ _ _
  · apply Runs.walk 10
    simp only [unpacked, odd, if_true] at final parity
    simpa [parity, saved, there, four, six, eight] using final _ _ _

end Walks

/-- The stack as ReadOneSector is called: `ES`, `BX`, the offset in the
sector, the return address. -/
def stackOf (memory : Memory) (sp es bx ax : Word) (cluster : Nat) : Memory :=
  (((saveOf memory sp es bx ax).setByte 0#16 odd (BitVec.ofNat 8 (cluster % 2))).setWord 0#16
    (sp - 6#16) (BitVec.ofNat 16 (3 * cluster / 2 % 512))).setWord 0#16 (sp - 8#16) 0x7da1#16

section Stack

variable (memory : Memory) {sp : Word} (es bx ax : Word) (cluster : Nat)

theorem stack_above {address : Nat} (room : 8 ≤ sp.toNat) (above : sp.toNat ≤ address)
    (other : address ≠ 0x7dbb) :
    stackOf memory sp es bx ax cluster address = memory address := by
  simp only [stackOf, saveOf, odd, Memory.set_word_apply, Memory.set_byte_apply]
  rw [if_neg, if_neg, if_neg, if_neg, if_neg, if_neg, if_neg, if_neg, if_neg, if_neg, if_neg] <;>
    simp <;> bv_omega

theorem stack_odd (room : 8 ≤ sp.toNat) (below : sp.toNat ≤ 0x7bfe) :
    stackOf memory sp es bx ax cluster 0x7dbb = BitVec.ofNat 8 (cluster % 2) := by
  simp only [stackOf, odd, Memory.set_word_apply, Memory.set_byte_apply]
  rw [if_neg, if_neg, if_neg, if_neg, if_pos] <;> simp <;> bv_omega

theorem stack_back : (stackOf memory sp es bx ax cluster).word 0#16 (sp - 8#16) = 0x7da1#16 :=
  Memory.word_set_word ..

theorem stack_offset : (stackOf memory sp es bx ax cluster).word 0#16 (sp - 6#16) =
    BitVec.ofNat 16 (3 * cluster / 2 % 512) := by
  rw [stackOf, Memory.word_set_word_apart _ (by bv_omega) (by bv_omega) (by bv_omega),
    Memory.word_set_word]

theorem stack_saved {depth : Word} (shallow : 2 ≤ depth.toNat) (deep : depth.toNat ≤ 4)
    (room : 8 ≤ sp.toNat) (below : sp.toNat ≤ 0x7bfe) :
    (stackOf memory sp es bx ax cluster).word 0#16 (sp - depth) =
      (saveOf memory sp es bx ax).word 0#16 (sp - depth) := by
  simp only [stackOf, odd]
  rw [Memory.word_set_word_apart _ (by bv_omega) (by bv_omega) (by bv_omega),
    Memory.word_set_word_apart _ (by bv_omega) (by bv_omega) (by bv_omega),
    Memory.word_set_byte_apart _ (by bv_omega) (by bv_omega)]

theorem stack_bx (room : 8 ≤ sp.toNat) (below : sp.toNat ≤ 0x7bfe) :
    (stackOf memory sp es bx ax cluster).word 0#16 (sp - 4#16) = bx := by
  rw [stack_saved _ _ _ _ _ (by decide) (by decide) room below, saveOf,
    Memory.word_set_word_apart _ (by bv_omega) (by bv_omega) (by bv_omega), Memory.word_set_word]

theorem stack_es (room : 8 ≤ sp.toNat) (below : sp.toNat ≤ 0x7bfe) :
    (stackOf memory sp es bx ax cluster).word 0#16 (sp - 2#16) = es := by
  rw [stack_saved _ _ _ _ _ (by decide) (by decide) room below, saveOf,
    Memory.word_set_word_apart _ (by bv_omega) (by bv_omega) (by bv_omega),
    Memory.word_set_word_apart _ (by bv_omega) (by bv_omega) (by bv_omega), Memory.word_set_word]

end Stack

theorem image_bytes_per_sec {memory : Memory} (intact : Intact memory) :
    memory.word 0#16 bpbBytesPerSec = 512#16 := by
  have low : memory 0x7c0b = 0 := intact 0x0b (by decide) (by decide)
  have high : memory 0x7c0c = 2 := intact 0x0c (by decide) (by decide)
  simp [Memory.word, bpbBytesPerSec, low, high]
  rfl

/-- The routine has returned with the entry; only its stack, `[Odd]` and the
buffer have changed. -/
structure Returned (disk : Nat → Byte) (cluster : Nat) (entry config : Config) : Prop where
  fault : config.fault = false
  ip : config.machine.ip = entry.machine.memory.word 0#16 entry.machine.sp
  sp : config.machine.sp = entry.machine.sp + 2#16
  ax : config.machine.ax = BitVec.ofNat 16 (Fat12.entry (fat1 disk) cluster)
  bx : config.machine.bx = entry.machine.bx
  bp : config.machine.bp = entry.machine.bp
  si : config.machine.si = entry.machine.si
  di : config.machine.di = entry.machine.di
  cs : config.machine.cs = 0#16
  ds : config.machine.ds = 0#16
  es : config.machine.es = entry.machine.es
  ss : config.machine.ss = 0#16
  log : settled config.log =
    settled entry.log ++ [.read (fatCall cluster) (fatRequest cluster) false]
  frame : ∀ address, entry.machine.sp.toNat ≤ address → address < 0xa0000 →
    address ≠ 0x7dbb → ¬(0x8000 ≤ address ∧ address < 0x8400) →
      config.machine.memory address = entry.machine.memory address
  data : ∀ index < 1024,
    config.machine.memory (0x8000 + index) = disk (512 * fatSector cluster + index)

theorem unpacked_entry (table : Fat12.Table) (cluster : Nat) :
    unpacked cluster (wordOf (table (3 * cluster / 2 + 1)) (table (3 * cluster / 2))) =
      BitVec.ofNat 16 (Fat12.entry table cluster) := by
  have low := (table (3 * cluster / 2)).isLt
  have high := (table (3 * cluster / 2 + 1)).isLt
  apply BitVec.eq_of_toNat_eq
  rw [unpacked, BitVec.toNat_and, show (0xfff#16).toNat = 2 ^ 12 - 1 by rfl,
    Nat.and_two_pow_sub_one_eq_mod]
  rcases Nat.mod_two_eq_zero_or_one cluster with even | odd
  · simp only [even, if_neg Nat.zero_ne_one, word_of_to_nat, Fat12.entry, BitVec.toNat_ofNat]
    simp
    omega
  · simp only [odd, if_true, BitVec.toNat_ushiftRight, word_of_to_nat, Fat12.entry,
      Nat.shiftRight_eq_div_pow, BitVec.toNat_ofNat]
    simp
    omega

structure Reading (cluster : Nat) (entry config : Config) : Prop where
  fault : config.fault = false
  ip : config.machine.ip = readOneSector
  ax : config.machine.ax = BitVec.ofNat 16 (fatSector cluster)
  bx : config.machine.bx = 0x8000#16
  cl : lowByte config.machine.cx = 2#8
  sp : config.machine.sp = entry.machine.sp - 8#16
  bp : config.machine.bp = entry.machine.bp
  si : config.machine.si = entry.machine.si
  di : config.machine.di = entry.machine.di
  cs : config.machine.cs = 0#16
  ds : config.machine.ds = 0#16
  es : config.machine.es = 0#16
  ss : config.machine.ss = 0#16
  memory : config.machine.memory = stackOf entry.machine.memory entry.machine.sp
    entry.machine.es entry.machine.bx entry.machine.ax cluster
  call : config.call = fatCall cluster
  log : config.log = entry.log

theorem reach_read {cluster : Nat} {config : Config} (called : Called floor cluster config)
    (small : cluster < 43691) :
    Runs (step code bios) total (Good floor allowed) config (Reading cluster config) := by
  have room := called.room
  have below := called.below
  apply Runs.walk
  apply triple called (by omega)
  intro carry
  apply Runs.walk 1
  apply halve cluster
  · exact called.ready.fault
  · exact called.ready.cs
  · rfl
  · rfl
  · rfl
  · rfl
  · exact small
  apply note_parity
  · exact called.ready.fault
  · exact called.ready.cs
  · exact called.ready.ds
  · rfl
  · rfl
  · rfl
  intro carry zero
  apply Runs.walk
  apply call_read (3 * cluster / 2)
  · exact called.ready.fault
  · exact called.ready.cs
  · exact called.ready.ds
  · exact called.ready.ss
  · rfl
  · simp
    omega
  · simp only
    bv_omega
  · simp only
    bv_omega
  · have kept : ∀ address, config.machine.sp.toNat ≤ address → address < 0x7db7 →
        ((saveOf config.machine.memory config.machine.sp config.machine.es config.machine.bx
          config.machine.ax).setByte 0#16 odd (BitVec.ofNat 8 (cluster % 2))) address =
          config.machine.memory address := by
      intro address above low
      simp only [saveOf, odd, Memory.set_word_apply, Memory.set_byte_apply]
      rw [if_neg, if_neg, if_neg, if_neg, if_neg, if_neg, if_neg] <;> simp <;> bv_omega
    refine (Memory.word_congr (kept _ ?_ ?_) (kept _ ?_ ?_)).trans
      (image_bytes_per_sec called.ready.intact) <;> simp [bpbBytesPerSec]
    · omega
    · omega
  intro carry zero
  apply Runs.here
  have four : config.machine.sp - 4#16 - 2#16 = config.machine.sp - 6#16 := sub_sub ..
  have eight : config.machine.sp - 4#16 - 4#16 = config.machine.sp - 8#16 := sub_sub ..
  exact
    { fault := called.ready.fault, ip := rfl, ax := rfl, bx := rfl, bp := rfl, si := rfl, di := rfl
      cs := called.ready.cs, ds := called.ready.ds, es := rfl, ss := called.ready.ss
      cl := low_byte_word_of ..
      sp := eight
      memory := by simp only [four, eight, stackOf]
      call := rfl
      log := rfl }

theorem fat_sector_le {cluster : Nat} (small : cluster < 4577) : fatSector cluster ≤ 14 := by
  simp only [fatSector]
  omega

theorem Reading.called {cluster : Nat} {entry config : Config}
    (entered : Called floor cluster entry) (small : cluster < 4577)
    (reading : Reading cluster entry config) :
    ReadOneSector.Called floor 2 (fatSector cluster) config := by
  have room := entered.room
  have below := entered.below
  have sp := reading.sp
  have sector := fat_sector_le small
  exact
    { ready :=
        { fault := reading.fault, cs := reading.cs, ds := reading.ds, ss := reading.ss
          intact := entered.ready.intact.of_agree (fun address lower upper outside => by
            rw [reading.memory, stack_above _ _ _ _ _ (by omega) (by omega) (by omega)]) }
      ip := reading.ip
      room := by bv_omega
      below := by bv_omega
      ax := reading.ax
      small := by omega
      cl := reading.cl
      counted := .inr rfl
      track := by omega
      buffer := .inl ⟨reading.es, reading.bx⟩ }

theorem Reading.asked {cluster : Nat} {entry config : Config}
    (reading : Reading cluster entry config) :
    ReadOneSector.asked 2 (fatSector cluster) config = fatRequest cluster := by
  rw [ReadOneSector.asked, reading.es, reading.bx, fatRequest]

theorem fat_request_on_disk {cluster : Nat} (small : cluster < 4577) :
    (fatRequest cluster).OnDisk := by
  have sector := fat_sector_le small
  refine ⟨(Request.well_formed_iff _).mpr ?_, ?_⟩
  · simp [fatRequest, Request.ofLba, Request.size, Request.start]
    omega
  · simp only [fatRequest, Request.lba_of_lba]
    simp only [Request.ofLba]
    omega

theorem fat_request_start (cluster : Nat) : (fatRequest cluster).start = 0x8000 := by
  simp [fatRequest, Request.ofLba, Request.start]

theorem fat_request_size (cluster : Nat) : (fatRequest cluster).size = 1024 := rfl

theorem fat_request_covers (cluster address : Nat) :
    (fatRequest cluster).Covers address ↔ 0x8000 ≤ address ∧ address < 0x8400 := by
  rw [Request.Covers, fat_request_start, fat_request_size]

/-- Two sectors of the table in the buffer hold both bytes of the entry, also
where these lie in different sectors. -/
theorem entry_bytes {cluster : Nat} {memory : Memory} (data : ∀ index < 1024,
    memory (0x8000 + index) = disk (512 * fatSector cluster + index)) :
    memory.word 0#16 (0x8000#16 + BitVec.ofNat 16 (3 * cluster / 2 % 512)) =
      wordOf (fat1 disk (3 * cluster / 2 + 1)) (fat1 disk (3 * cluster / 2)) := by
  have low : 512 * fatSector cluster + 3 * cluster / 2 % 512 = 512 + 3 * cluster / 2 := by
    simp only [fatSector]
    omega
  have high : 512 * fatSector cluster + (3 * cluster / 2 % 512 + 1) =
      512 + (3 * cluster / 2 + 1) := by
    omega
  rw [← BitVec.ofNat_add, Memory.word_at _ (by omega), Nat.add_assoc, data _ (by omega),
    data _ (by omega), low, high, fat1, fat1]

theorem sub_add_eight (sp : Word) : sp - 6#16 + 8#16 = sp + 2#16 := by
  bv_omega

/-- GetFATEntry returns the entry of its cluster. -/
theorem get_fat_entry {cluster : Nat} {config : Config} (honours : Honours bios disk)
    (serves : total → Serves bios failures (fatRequest cluster))
    (called : Called floor cluster config)
    (small : cluster < 4577) (permitted : allowed.read (fatCall cluster) (fatRequest cluster)) :
    Runs (step code bios) total (Good floor allowed) config (Returned disk cluster config) := by
  apply (reach_read called (by omega)).bind
  intro entered reading
  apply (ReadOneSector.read_one_sector honours (by rwa [reading.asked])
    (reading.called called small) (by rwa [reading.asked, reading.call])).bind
  intro back returned
  have room := called.room
  have below := called.below
  have frame : ∀ address, config.machine.sp.toNat - 8 ≤ address → address < 0xa0000 →
      ¬(0x8000 ≤ address ∧ address < 0x8400) → back.machine.memory address =
        stackOf config.machine.memory config.machine.sp config.machine.es config.machine.bx
          config.machine.ax cluster address := by
    intro address above under outside
    rw [← reading.memory]
    apply returned.frame address _ under
    · rwa [reading.asked, fat_request_covers]
    · rw [reading.sp]
      bv_omega
  have word : ∀ depth : Word, 2 ≤ depth.toNat → depth.toNat ≤ 8 →
      back.machine.memory.word 0#16 (config.machine.sp - depth) =
        (stackOf config.machine.memory config.machine.sp config.machine.es config.machine.bx
          config.machine.ax cluster).word 0#16 (config.machine.sp - depth) := by
    intro depth low high
    apply Memory.word_congr
    · exact frame _ (by simp; bv_omega) (by simp; bv_omega) (by simp; bv_omega)
    · exact frame _ (by simp; bv_omega) (by simp; bv_omega) (by simp; bv_omega)
  have sp : back.machine.sp = config.machine.sp - 6#16 := by
    rw [returned.sp, reading.sp]
    exact sub_add ..
  have data : ∀ index < 1024,
      back.machine.memory (0x8000 + index) = disk (512 * fatSector cluster + index) := by
    intro index bound
    have delivered := returned.data index
    rw [reading.asked, fat_request_start, fat_request_size] at delivered
    exact delivered bound
  apply unpack cluster (3 * cluster / 2 % 512)
    (wordOf (fat1 disk (3 * cluster / 2 + 1)) (fat1 disk (3 * cluster / 2)))
  · exact returned.fault
  · exact returned.cs
  · exact returned.ds
  · exact returned.ss
  · exact returned.es.trans reading.es
  · rw [returned.ip, reading.memory, reading.sp]
    exact stack_back ..
  · exact returned.bx.trans reading.bx
  · rw [frame _ (by omega) (by omega) (by omega)]
    exact stack_odd _ _ _ _ _ (by omega) below
  · rw [Machine.top, returned.ss, sp, word _ (by decide) (by decide)]
    exact stack_offset ..
  · exact entry_bytes data
  intro dx carry zero
  apply Runs.here
  exact
    { fault := returned.fault, cs := returned.cs, ds := returned.ds, ss := returned.ss
      bp := returned.bp.trans reading.bp, si := returned.si.trans reading.si
      di := returned.di.trans reading.di
      ip := by
        simp only [sp, sub_add_cancel]
        apply Memory.word_congr
        · simp only [physical_zero]
          rw [frame _ (by omega) (by omega) (by omega)]
          exact stack_above _ _ _ _ _ (by omega) (by omega) (by omega)
        · simp only [physical_zero]
          rw [frame _ (by bv_omega) (by bv_omega) (by bv_omega)]
          exact stack_above _ _ _ _ _ (by omega) (by bv_omega) (by bv_omega)
      sp := by
        simp only [sp]
        exact sub_add_eight _
      ax := unpacked_entry ..
      bx := by
        simp only [sp]
        rw [show config.machine.sp - 6#16 + 2#16 = config.machine.sp - 4#16 from sub_add ..,
          word _ (by decide) (by decide)]
        exact stack_bx _ _ _ _ _ (by omega) below
      es := by
        simp only [sp]
        rw [show config.machine.sp - 6#16 + 4#16 = config.machine.sp - 2#16 from sub_add ..,
          word _ (by decide) (by decide)]
        exact stack_es _ _ _ _ _ (by omega) below
      log := by rw [returned.log, reading.asked, reading.call, reading.log]
      frame := fun address above under notOdd outside => by
        simp only
        rw [frame address (by omega) under outside]
        exact stack_above _ _ _ _ _ (by omega) above notOdd
      data := data }

/-- A cluster number of 43691 or more overflows the first division. -/
theorem fat_faults {cluster : Nat} {config : Config} (called : Called floor cluster config)
    (large : 43691 ≤ cluster) (word : cluster < 65536) :
    Runs (step code bios) total (Good floor allowed) config
      (fun later => Faulting later ∧ later.log = config.log) := by
  apply Runs.walk
  apply triple called word
  intro carry
  apply Runs.here
  refine ⟨⟨called.ready.fault, .div16 bx, 0x7d83, ?_, ?_⟩, rfl⟩
  · simp only [called.ready.cs]
    rfl
  · have dxax : 65536 * (cluster * 3 / 65536 % 65536) + cluster * 3 % 65536 = cluster * 3 := by
      omega
    have quotient : 65536 ≤ cluster * 3 / 2 := by omega
    simp [dxax, quotient]

end BootSector.GetFATEntry
