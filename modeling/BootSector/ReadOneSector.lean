import BootSector.Assertion

/-!
# ReadOneSector

The routine turns the sector number in `AX` into a cylinder, head and sector,
keeps the sector count in a byte of its stack frame, and asks the BIOS again
until a read succeeds.
-/

namespace BootSector.ReadOneSector

open RealMode Bios Program Execution Assertion

attribute [local simp] Walk step code lineAt readLines perform resume Machine.faults
  Machine.execute Machine.push Machine.top Machine.load8 Machine.store8 Machine.load16
  Machine.store16 Machine.value8 Machine.value16 Machine.reg8 Machine.setReg8 Machine.reg16
  Machine.setReg16 Machine.segment Machine.offset Machine.withFlags Machine.aluResult
  Machine.aluCarry Machine.stores Machine.stored8 Machine.stored16 Machine.lowered
  Machine.asks Instr.interrupts Good Ended LabelSafe LineSafe

attribute [local simp] start searchInRootDirectoryBegin searchForLoaderBin noLoaderBin
  fileNameFound goOnLoadingFile fileLoaded readOneSector goOnReading getFATEntry
  bpbSecPerTrk bsDrvNum

attribute [-simp] BitVec.toNat_add BitVec.toNat_sub

variable {floor : Nat} {allowed : Allowed} {bios : Services}
  {disk : Nat → Byte} {total : Prop} {failures : Nat → Nat}

structure Entered (floor : Nat) (config : Config) : Prop where
  ready : Ready config
  ip : config.machine.ip = readOneSector
  room : floor + 6 ≤ config.machine.sp.toNat
  below : config.machine.sp.toNat ≤ 0x7bfe

/-- The routine has been called for `count` sectors from `lba` on, with a sector
buffer or a page of the load segment in `ES:BX`. -/
structure Called (floor count lba : Nat) (config : Config) : Prop extends
    Entered floor config where
  ax : config.machine.ax = BitVec.ofNat 16 lba
  small : lba < 4608
  cl : lowByte config.machine.cx = BitVec.ofNat 8 count
  counted : count = 1 ∨ count = 2
  track : lba % 18 + count ≤ 18
  buffer : (config.machine.es = 0 ∧ config.machine.bx = 0x8000) ∨
    (config.machine.es = 0x1000 ∧ count = 1 ∧ config.machine.bx.toNat % 512 = 0)

def asked (count lba : Nat) (config : Config) : Request :=
  .ofLba count lba config.machine.es config.machine.bx

/-- At `GoOnReading`, before any attempt, having been called at `entry`. -/
structure Waiting (count lba : Nat) (entry config : Config) : Prop where
  fault : config.fault = false
  ip : config.machine.ip = goOnReading
  sp : config.machine.sp = entry.machine.sp - 4#16
  bp : config.machine.bp = entry.machine.sp - 2#16
  bx : config.machine.bx = entry.machine.bx
  cx : config.machine.cx = wordOf (BitVec.ofNat 8 (lba / 36)) (BitVec.ofNat 8 (lba % 18 + 1))
  dx : config.machine.dx = wordOf (BitVec.ofNat 8 (lba / 18 % 2)) 0
  si : config.machine.si = entry.machine.si
  di : config.machine.di = entry.machine.di
  cs : config.machine.cs = 0#16
  ds : config.machine.ds = 0#16
  es : config.machine.es = entry.machine.es
  ss : config.machine.ss = 0#16
  call : config.call = entry.call
  log : settled config.log = settled entry.log
  saved : config.machine.memory.word 0 (entry.machine.sp - 2#16) = entry.machine.bp
  slot : config.machine.memory (entry.machine.sp - 4#16).toNat = BitVec.ofNat 8 count
  frame : ∀ address, entry.machine.sp.toNat ≤ address → address < 0xa0000 →
    ¬(asked count lba entry).Covers address →
      config.machine.memory address = entry.machine.memory address

structure Returned (disk : Nat → Byte) (count lba : Nat) (entry config : Config) : Prop where
  fault : config.fault = false
  ip : config.machine.ip = entry.machine.memory.word 0 entry.machine.sp
  sp : config.machine.sp = entry.machine.sp + 2#16
  bp : config.machine.bp = entry.machine.bp
  bx : config.machine.bx = entry.machine.bx
  si : config.machine.si = entry.machine.si
  di : config.machine.di = entry.machine.di
  cs : config.machine.cs = 0#16
  ds : config.machine.ds = 0#16
  es : config.machine.es = entry.machine.es
  ss : config.machine.ss = 0#16
  log : settled config.log =
    settled entry.log ++ [.read entry.call (asked count lba entry) false]
  frame : ∀ address, entry.machine.sp.toNat ≤ address → address < 0xa0000 →
    ¬(asked count lba entry).Covers address →
      config.machine.memory address = entry.machine.memory address
  data : ∀ index < (asked count lba entry).size,
    config.machine.memory ((asked count lba entry).start + index) = disk (512 * lba + index)

theorem Called.count_le {count lba : Nat} {config : Config}
    (called : Called floor count lba config) : count ≤ 2 := by
  rcases called.counted with one | two <;> omega

theorem Called.start_bounds {count lba : Nat} {config : Config}
    (called : Called floor count lba config) :
    ((asked count lba config).start = 0x8000 ∧ (asked count lba config).size ≤ 1024) ∨
      ((asked count lba config).size = 512 ∧ (asked count lba config).start % 512 = 0 ∧
        0x10000 ≤ (asked count lba config).start ∧ (asked count lba config).start < 0x20000) := by
  have counted := called.count_le
  have bound := config.machine.bx.isLt
  rcases called.buffer with ⟨es, bx⟩ | ⟨es, single, aligned⟩
  · left
    simp [asked, Request.ofLba, Request.start, Request.size, physical, es, bx]
    omega
  · right
    simp [asked, Request.ofLba, Request.start, Request.size, physical, es, single]
    omega

theorem Called.covers_footprint {count lba address : Nat} {config : Config}
    (called : Called floor count lba config)
    (covers : (asked count lba config).Covers address) : Footprint floor address := by
  obtain ⟨lower, upper⟩ := covers
  rcases called.start_bounds with bounds | bounds
  · right; right; left; omega
  · right; right; right; omega

theorem Called.well_formed {count lba : Nat} {config : Config}
    (called : Called floor count lba config) : (asked count lba config).WellFormed where
  drive := rfl
  head := Nat.mod_lt _ (by omega)
  count := by rcases called.counted with one | two <;> simp [asked, Request.ofLba, *]
  sector := by simp [asked, Request.ofLba]
  track := by
    have fits := called.track
    simp [asked, Request.ofLba]
    omega
  segment_end := by
    have counted := called.count_le
    have bound := config.machine.bx.isLt
    rcases called.buffer with ⟨es, bx⟩ | ⟨es, single, aligned⟩
    · simp [asked, Request.ofLba, Request.size, bx]
      omega
    · simp [asked, Request.ofLba, Request.size, single]
      omega
  page := by
    have positive : 1 ≤ (asked count lba config).size := by
      rcases called.counted with one | two <;> simp [asked, Request.ofLba, Request.size, *]
    rcases called.start_bounds with bounds | bounds <;> omega

/-- The frame the routine builds on the stack: the caller's `BP`, the sector
count, the caller's `BX`. -/
def frameOf (memory : Memory) (sp bp bx : Word) (count : Byte) : Memory :=
  ((memory.setWord 0 (sp - 2#16) bp).setByte 0 (sp - 4#16) count).setWord 0 (sp - 6#16) bx

theorem frame_above {memory : Memory} {sp bp bx : Word} {count : Byte} {address : Nat}
    (room : 6 ≤ sp.toNat) (above : sp.toNat ≤ address) :
    frameOf memory sp bp bx count address = memory address := by
  simp only [frameOf, Memory.set_word_apply, Memory.set_byte_apply]
  rw [if_neg, if_neg, if_neg, if_neg, if_neg] <;> simp <;> bv_omega

theorem frame_saved (memory : Memory) (sp bp bx : Word) (count : Byte) :
    (frameOf memory sp bp bx count).word 0 (sp - 2#16) = bp := by
  have kept : (frameOf memory sp bp bx count).word 0 (sp - 2#16) =
      (memory.setWord 0 (sp - 2#16) bp).word 0 (sp - 2#16) := by
    apply Memory.word_congr
    all_goals
      rw [frameOf, Memory.set_word_apply, Memory.set_byte_apply, if_neg, if_neg, if_neg] <;>
        simp <;> bv_omega
  rw [kept, Memory.word_set_word]

theorem frame_slot (memory : Memory) (sp bp bx : Word) (count : Byte) :
    frameOf memory sp bp bx count (sp - 4#16).toNat = count := by
  simp only [frameOf, Memory.set_word_apply, Memory.set_byte_apply]
  rw [if_neg, if_neg, if_pos (by simp)] <;> simp <;> bv_omega

theorem frame_bx (memory : Memory) (sp bp bx : Word) (count : Byte) :
    (frameOf memory sp bp bx count).word 0 (sp - 6#16) = bx :=
  Memory.word_set_word ..

theorem build_frame {config : Config} {after : Config → Prop} (entered : Entered floor config)
    (final : ∀ espHigh carry zero, after
      { config with
        machine := { config.machine with
          ip := 0x7d44#16
          sp := config.machine.sp - 6#16
          bp := config.machine.sp - 2#16
          espHigh := espHigh
          carry := carry
          zero := zero
          memory := frameOf config.machine.memory config.machine.sp config.machine.bp
            config.machine.bx (lowByte config.machine.cx) } }) :
    Walk (step code bios) (Good floor allowed) after 5 config := by
  obtain ⟨⟨fault, cs, ds, ss, intact⟩, ip, room, below⟩ := entered
  obtain ⟨⟨ax, bx, cx, dx, si, di, bp, sp, espHigh, csW, dsW, es, ssW, ipW, carry, zero,
    direction, memory⟩, faultB, call, log⟩ := config
  simp only at fault cs ds ss ip room below final
  subst fault cs ds ss ip
  have two : sp - 2#16 - 2#16 = sp - 4#16 := sub_sub ..
  have four : sp - 4#16 - 2#16 = sp - 6#16 := sub_sub ..
  have slot : sp - 2#16 + 65534#16 = sp - 4#16 := by bv_omega
  simp only [frameOf] at final
  simp [two, four, slot]
  have slots : ∀ depth : Word, 2 ≤ depth.toNat → depth.toNat ≤ 6 → _ :=
    fun depth positive small => stack_slot depth (by omega : floor + _ ≤ sp.toNat)
      positive (by omega)
  exact ⟨slots 2#16 (by decide) (by decide), (slots 4#16 (by decide) (by decide)).2,
    (slots 4#16 (by decide) (by decide)).1.1, slots 6#16 (by decide) (by decide), final _ _ _⟩

theorem image_sec_per_trk {memory : Memory} (intact : Intact memory) : memory 0x7c18 = 18 :=
  intact 0x18 (by decide) (by decide)

theorem image_drv_num {memory : Memory} (intact : Intact memory) : memory 0x7c24 = 0 :=
  intact 0x24 (by decide) (by decide)

theorem track_quotient (lba : Nat) (small : lba < 4608) :
    BitVec.ofNat 8 (lba / 18) >>> 1 = BitVec.ofNat 8 (lba / 36) := by
  apply BitVec.eq_of_toNat_eq
  simp [Nat.shiftRight_eq_div_pow]
  omega

theorem track_parity (lba : Nat) :
    BitVec.ofNat 8 (lba / 18) &&& 1#8 = BitVec.ofNat 8 (lba / 18 % 2) := by
  apply BitVec.eq_of_toNat_eq
  simp only [BitVec.toNat_and, BitVec.toNat_ofNat]
  rw [show 1 % 2 ^ 8 = 2 ^ 1 - 1 by rfl, Nat.and_two_pow_sub_one_eq_mod]
  omega

theorem locate (lba : Nat) {config : Config} {after : Config → Prop}
    (fault : config.fault = false) (cs : config.machine.cs = 0#16) (ds : config.machine.ds = 0#16)
    (ss : config.machine.ss = 0#16) (ip : config.machine.ip = 0x7d44#16)
    (ax : config.machine.ax.toNat = lba) (small : lba < 4608)
    (sectors : config.machine.memory 0x7c18 = 18) (drive : config.machine.memory 0x7c24 = 0)
    (final : ∀ ax carry zero, after
      { config with
        machine := { config.machine with
          ip := goOnReading
          ax := ax
          bx := config.machine.top
          cx := wordOf (BitVec.ofNat 8 (lba / 36)) (BitVec.ofNat 8 (lba % 18 + 1))
          dx := wordOf (BitVec.ofNat 8 (lba / 18 % 2)) 0
          sp := config.machine.sp + 2#16
          carry := carry
          zero := zero } }) :
    Walk (step code bios) (Good floor allowed) after 10 config := by
  obtain ⟨⟨axW, bx, cx, dx, si, di, bp, sp, espHigh, csW, dsW, es, ssW, ipW, carry, zero,
    direction, memory⟩, faultB, call, log⟩ := config
  simp only at fault cs ds ss ip ax sectors drive final
  subst fault cs ds ss ip
  have quotient : ¬256 ≤ lba / 18 := by omega
  simp [sectors, drive, ax, quotient, track_quotient lba small, track_parity,
    ← BitVec.ofNat_add]
  exact final _ _ _

/-- The lines up to `GoOnReading` leave the request in `CX` and `DX`. -/
theorem prologue {count lba : Nat} {config : Config} (called : Called floor count lba config) :
    Runs (step code bios) total (Good floor allowed) config (Waiting count lba config) := by
  have room : 6 ≤ config.machine.sp.toNat := le_trans (by omega) called.room
  have below := called.below
  have ax : config.machine.ax.toNat = lba := by
    have small := called.small
    simp [called.ax]
    omega
  apply Runs.walk
  apply build_frame called.toEntered
  intro espHigh carry zero
  apply Runs.walk
  apply locate lba
  · exact called.ready.fault
  · exact called.ready.cs
  · exact called.ready.ds
  · exact called.ready.ss
  · rfl
  · exact ax
  · exact called.small
  · exact (frame_above room (by omega)).trans (image_sec_per_trk called.ready.intact)
  · exact (frame_above room (by omega)).trans (image_drv_num called.ready.intact)
  intro axLeft carry zero
  apply Runs.here
  exact
    { fault := called.ready.fault
      ip := rfl
      sp := by simp only; bv_omega
      bp := rfl
      bx := by simp only [Machine.top, called.ready.ss]; exact frame_bx ..
      cx := rfl
      dx := rfl
      si := rfl
      di := rfl
      cs := called.ready.cs
      ds := called.ready.ds
      es := rfl
      ss := called.ready.ss
      call := rfl
      log := rfl
      saved := frame_saved ..
      slot := (frame_slot ..).trans called.cl
      frame := fun address above _ _ => frame_above room above }

section Attempt

variable {count lba : Nat} {entry config : Config} {after : Config → Prop}

def issuing (count : Nat) (machine : Machine) : Machine :=
  { machine with ax := wordOf 2#8 (BitVec.ofNat 8 count), ip := 0x7d61#16 }

theorem issuing_is_read (count : Nat) (machine : Machine) : (issuing count machine).isRead := by
  simp [issuing, Machine.isRead]

theorem issuing_request (called : Called floor count lba entry)
    (waiting : Waiting count lba entry config) :
    (issuing count config.machine).request = asked count lba entry := by
  have counted := called.count_le
  have small := called.small
  have cylinder : lba / 36 % 256 + 256 * ((lba % 18 + 1) % 256 / 64) = lba / 36 := by omega
  have sector : (lba % 18 + 1) % 256 % 64 = lba % 18 + 1 := by omega
  simp [issuing, Machine.request, asked, Request.ofLba, waiting.cx, waiting.dx, waiting.es,
    waiting.bx, cylinder, sector]
  omega

theorem issue (called : Called floor count lba entry) (waiting : Waiting count lba entry config)
    (permitted : allowed.read entry.call (asked count lba entry))
    (final : after
      { config with
        machine :=
          resume config.machine (bios.disk config.log (issuing count config.machine)) 0x7d63#16
        log := config.log ++ [.read entry.call (asked count lba entry)
          (bios.disk config.log (issuing count config.machine)).carry] }) :
    Walk (step code bios) (Good floor allowed) after 3 config := by
  have read := issuing_is_read count config.machine
  have same := issuing_request called waiting
  have slot := waiting.slot
  have bpSlot : entry.machine.sp - 2#16 + 65534#16 = entry.machine.sp - 4#16 := by bv_omega
  have call := waiting.call
  have fault := waiting.fault
  have ip := waiting.ip
  have cs := waiting.cs
  have ss := waiting.ss
  have bp := waiting.bp
  have depth : config.machine.sp.toNat ≤ 0x7c00 := by
    have room := called.room
    have below := called.below
    rw [waiting.sp]
    bv_omega
  obtain ⟨⟨ax, bx, cx, dx, si, di, bpW, sp, espHigh, csW, ds, es, ssW, ipW, carry, zero,
    direction, memory⟩, faultB, callC, log⟩ := config
  simp only at fault cs ss ip bp slot call depth final
  subst fault cs ss ip bp call
  simp only [issuing] at read same final
  simp [bpSlot, slot, read, same, diskEvent]
  exact ⟨⟨⟨permitted, fun _ => called.covers_footprint⟩, depth⟩, by simpa using final⟩

theorem again (fault : config.fault = false) (cs : config.machine.cs = 0#16)
    (ip : config.machine.ip = 0x7d63#16) (carry : config.machine.carry = true)
    (final : after { config with machine := { config.machine with ip := goOnReading } }) :
    Walk (step code bios) (Good floor allowed) after 1 config := by
  obtain ⟨⟨ax, bx, cx, dx, si, di, bp, sp, espHigh, csW, ds, es, ss, ipW, carryB, zero,
    direction, memory⟩, faultB, call, log⟩ := config
  simp only at fault cs ip carry final
  subst fault cs ip carry
  simpa using final

theorem leave (fault : config.fault = false) (cs : config.machine.cs = 0#16)
    (ss : config.machine.ss = 0#16) (ip : config.machine.ip = 0x7d63#16)
    (carry : config.machine.carry = false)
    (final : ∀ espHigh carry zero, after
      { config with
        machine := { config.machine with
          ip := config.machine.memory.word 0 (config.machine.sp + 4#16)
          bp := config.machine.memory.word 0 (config.machine.sp + 2#16)
          sp := config.machine.sp + 6#16
          espHigh := espHigh
          carry := carry
          zero := zero } }) :
    Walk (step code bios) (Good floor allowed) after 4 config := by
  obtain ⟨⟨ax, bx, cx, dx, si, di, bp, sp, espHigh, csW, ds, es, ssW, ipW, carryB, zero,
    direction, memory⟩, faultB, call, log⟩ := config
  simp only at fault cs ss ip carry final
  subst fault cs ss ip carry
  have four : sp + 2#16 + 2#16 = sp + 4#16 := by bv_omega
  have six : sp + 4#16 + 2#16 = sp + 6#16 := by bv_omega
  simp [four, six]
  exact final _ _ _

end Attempt

section Served

variable {count lba : Nat} {entry config : Config}

/-- What an attempt leaves, failed or not: the registers and the frame. -/
structure Served (count lba : Nat) (entry : Config) (machine : Machine) : Prop where
  sp : machine.sp = entry.machine.sp - 4#16
  bp : machine.bp = entry.machine.sp - 2#16
  bx : machine.bx = entry.machine.bx
  cx : machine.cx = wordOf (BitVec.ofNat 8 (lba / 36)) (BitVec.ofNat 8 (lba % 18 + 1))
  dx : machine.dx = wordOf (BitVec.ofNat 8 (lba / 18 % 2)) 0
  si : machine.si = entry.machine.si
  di : machine.di = entry.machine.di
  ds : machine.ds = 0#16
  es : machine.es = entry.machine.es
  ss : machine.ss = 0#16
  saved : machine.memory.word 0 (entry.machine.sp - 2#16) = entry.machine.bp
  slot : machine.memory (entry.machine.sp - 4#16).toNat = BitVec.ofNat 8 count
  frame : ∀ address, entry.machine.sp.toNat ≤ address → address < 0xa0000 →
    ¬(asked count lba entry).Covers address →
      machine.memory address = entry.machine.memory address

theorem Called.covers_high {address : Nat} (called : Called floor count lba entry)
    (low : address < 0x7c00) : ¬(asked count lba entry).Covers address := by
  rintro ⟨lower, upper⟩
  rcases called.start_bounds with bounds | bounds <;> omega

theorem served (honours : Honours bios disk) (called : Called floor count lba entry)
    (waiting : Waiting count lba entry config) :
    Served count lba entry (bios.disk config.log (issuing count config.machine)) := by
  have same := issuing_request called waiting
  have keeps : ReadKeeps (issuing count config.machine) _ :=
    honours.read config.log _ (issuing_is_read count config.machine)
  have below := called.below
  have room := called.room
  have owned : ∀ address, (entry.machine.sp - 4#16).toNat ≤ address → address < 0xa0000 →
      ¬(asked count lba entry).Covers address →
        (bios.disk config.log (issuing count config.machine)).memory address =
          config.machine.memory address := by
    intro address above under outside
    refine keeps.memory address ⟨?_, under⟩ (by rwa [same])
    simpa [issuing, waiting.ss, waiting.sp] using above
  have inFrame : ∀ offset : Word, (entry.machine.sp - 4#16).toNat ≤ offset.toNat →
      offset.toNat < 0x7c00 →
        (bios.disk config.log (issuing count config.machine)).memory offset.toNat =
          config.machine.memory offset.toNat := fun offset above low =>
    owned _ above (by omega) (called.covers_high low)
  exact
    { sp := keeps.sp.trans waiting.sp
      bp := keeps.bp.trans waiting.bp
      bx := keeps.bx.trans waiting.bx
      cx := keeps.cx.trans waiting.cx
      dx := keeps.dx.trans waiting.dx
      si := keeps.si.trans waiting.si
      di := keeps.di.trans waiting.di
      ds := keeps.ds.trans waiting.ds
      es := keeps.es.trans waiting.es
      ss := keeps.ss.trans waiting.ss
      saved := by
        rw [← waiting.saved]
        apply Memory.word_congr
        · simpa using inFrame (entry.machine.sp - 2#16) (by bv_omega) (by bv_omega)
        · simpa using inFrame (entry.machine.sp - 2#16 + 1#16) (by bv_omega) (by bv_omega)
      slot := (inFrame _ (le_refl _) (by bv_omega)).trans waiting.slot
      frame := fun address above under outside =>
        (owned address (by bv_omega) under outside).trans
          (waiting.frame address above under outside) }

end Served

theorem attempt_repeats {count lba : Nat} {entry config : Config} (honours : Honours bios disk)
    (called : Called floor count lba entry) (waiting : Waiting count lba entry config)
    (permitted : allowed.read entry.call (asked count lba entry))
    (carry : (bios.disk config.log (issuing count config.machine)).carry = true) :
    Advances (step code bios) total (Good floor allowed) config
      (fun later => Waiting count lba entry later ∧
        later.log = config.log ++ [.read entry.call (asked count lba entry) true]) := by
  have left := served honours called waiting
  apply Runs.advance
  apply issue called waiting permitted
  rw [carry]
  apply Runs.walk 1
  apply again
  · exact waiting.fault
  · exact waiting.cs
  · rfl
  · exact carry
  apply Runs.here
  refine ⟨?_, rfl⟩
  exact
    { fault := waiting.fault, ip := rfl, cs := waiting.cs, call := waiting.call
      sp := left.sp, bp := left.bp, bx := left.bx, cx := left.cx, dx := left.dx
      si := left.si, di := left.di, ds := left.ds, es := left.es, ss := left.ss
      saved := left.saved, slot := left.slot, frame := left.frame
      log := by simpa [settled] using waiting.log }

theorem attempt_failed {count lba : Nat} {entry config : Config} (honours : Honours bios disk)
    (called : Called floor count lba entry) (waiting : Waiting count lba entry config)
    (permitted : allowed.read entry.call (asked count lba entry))
    (carry : (bios.disk config.log (issuing count config.machine)).carry = true) :
    Advances (step code bios) total (Good floor allowed) config
      (fun later => Waiting count lba entry later ∧
        completed later.log = completed config.log ∧
        pending later.log = pending config.log + 1) := by
  apply (attempt_repeats honours called waiting permitted carry).mono (fun _ => id)
  rintro later ⟨stillWaiting, log⟩
  exact ⟨stillWaiting, by simp [log, completed], by simp [log]⟩

theorem attempt_succeeded {count lba : Nat} {entry config : Config}
    (honours : Honours bios disk)
    (called : Called floor count lba entry) (waiting : Waiting count lba entry config)
    (permitted : allowed.read entry.call (asked count lba entry))
    (carry : (bios.disk config.log (issuing count config.machine)).carry = false) :
    Advances (step code bios) total (Good floor allowed) config
      (Returned disk count lba entry) := by
  have reads := issuing_is_read count config.machine
  have same := issuing_request called waiting
  have left := served honours called waiting
  have below := called.below
  apply Runs.advance
  apply issue called waiting permitted
  rw [carry]
  apply Runs.walk 4
  apply leave
  · exact waiting.fault
  · exact waiting.cs
  · exact left.ss
  · rfl
  · exact carry
  intro espHigh carryOut zero
  apply Runs.here
  have back : (bios.disk config.log (issuing count config.machine)).memory.word 0
      entry.machine.sp = entry.machine.memory.word 0 entry.machine.sp := by
    apply Memory.word_congr
    · exact left.frame _ (by simp) (by simp; bv_omega) (called.covers_high (by simp; bv_omega))
    · exact left.frame _ (by simp; bv_omega) (by simp; bv_omega)
        (called.covers_high (by simp; bv_omega))
  have sp := left.sp
  exact
    { fault := waiting.fault, cs := waiting.cs, bx := left.bx, si := left.si, di := left.di
      ds := left.ds, es := left.es, ss := left.ss, frame := left.frame
      ip := by
        rw [← back]
        simp only [resume, sp]
        congr 1
        bv_omega
      sp := by
        simp only [resume, sp]
        bv_omega
      bp := by
        rw [← left.saved]
        simp only [resume, sp]
        congr 1
        bv_omega
      log := by simpa [settled] using waiting.log
      data := fun index bound => by
        have delivered := honours.data config.log _ reads (same ▸ called.well_formed) carry index
          (by rwa [same])
        rwa [same, asked, Request.lba_of_lba] at delivered }

/-- ReadOneSector returns with the sectors asked for, or keeps asking. -/
theorem read_one_sector {count lba : Nat} {config : Config} (honours : Honours bios disk)
    (serves : total → Serves bios failures (asked count lba config))
    (called : Called floor count lba config)
    (permitted : allowed.read config.call (asked count lba config)) :
    Runs (step code bios) total (Good floor allowed) config (Returned disk count lba config) := by
  apply (prologue called).bind
  intro start waiting
  refine Runs.loop (Waiting count lba config)
    (fun state => failures (completed state.log).length - pending state.log) ?_ waiting
  intro state waiting
  cases carry : (bios.disk state.log (issuing count state.machine)).carry with
  | false =>
      have done : Advances (step code bios) total (Good floor allowed) state _ :=
        attempt_succeeded honours called waiting permitted carry
      exact done.mono (fun _ => id) (fun _ => .inl)
  | true =>
      have retry : Advances (step code bios) total (Good floor allowed) state _ :=
        attempt_failed honours called waiting permitted carry
      refine retry.mono (fun _ => id) ?_
      rintro later ⟨stillWaiting, same, more⟩
      refine .inr ⟨stillWaiting, fun ends => ?_⟩
      have failed := serves ends state.log _ (issuing_is_read count state.machine)
        (issuing_request called waiting)
      rw [carry, eq_comm, decide_eq_true_iff] at failed
      rw [same, more]
      omega

/-- Where the BIOS refuses the request every time, the routine asks forever. -/
theorem read_refused {count lba : Nat} {config : Config} (honours : Honours bios disk)
    (refused : ∀ log machine, machine.isRead → machine.request = asked count lba config →
      (bios.disk log machine).carry = true)
    (called : Called floor count lba config)
    (permitted : allowed.read config.call (asked count lba config)) :
    Forever (step code bios) (Good floor allowed) config := by
  have stalls : Runs (step code bios) False (Good floor allowed) config (fun _ => False) := by
    apply (prologue called).bind
    intro start waiting
    refine Runs.loop (Waiting count lba config) (fun _ => 0) ?_ waiting
    intro state waiting
    have carry := refused state.log _ (issuing_is_read count state.machine)
      (issuing_request called waiting)
    have retry : Advances (step code bios) False (Good floor allowed) state _ :=
      attempt_failed honours called waiting permitted carry
    exact retry.mono (fun _ => id) (fun _ later => .inr ⟨later.1, False.elim⟩)
  exact stalls.forever (fun _ => False.elim)

theorem read_repeats {count lba : Nat} {config : Config} (honours : Honours bios disk)
    (refused : ∀ log machine, machine.isRead → machine.request = asked count lba config →
      (bios.disk log machine).carry = true)
    (called : Called floor count lba config)
    (permitted : allowed.read config.call (asked count lba config)) :
    Reaches (step code bios) (Good floor allowed) config (fun start =>
      Waiting count lba config start ∧ ∀ attempts, Reaches (step code bios) (Good floor allowed)
        start (fun later => later.log = start.log ++
          List.replicate attempts (.read config.call (asked count lba config) true))) := by
  have starts : Runs (step code bios) True (Good floor allowed) config _ := prologue called
  refine (starts.reaches trivial).mono (fun _ => id) ?_
  intro start waiting
  refine ⟨waiting, fun attempts => ?_⟩
  have tries : Runs (step code bios) True (Good floor allowed) start (fun later =>
      Waiting count lba config later ∧ later.log = start.log ++
        List.replicate attempts (.read config.call (asked count lba config) true)) := by
    refine Runs.chain (fun attempts later => Waiting count lba config later ∧
      later.log = start.log ++
        List.replicate attempts (.read config.call (asked count lba config) true)) ?_ ?_
    · rintro position - state ⟨waiting, log⟩
      have carry := refused state.log _ (issuing_is_read count state.machine)
        (issuing_request called waiting)
      apply (attempt_repeats honours called waiting permitted carry).mono (fun _ => id)
      rintro later ⟨stillWaiting, more⟩
      refine ⟨stillWaiting, ?_⟩
      rw [more, log, List.replicate_succ', List.append_assoc]
    · exact ⟨waiting, (List.append_nil _).symm⟩
  exact (tries.reaches trivial).mono (fun _ => id) (fun _ later => later.2)

theorem load_sectors_per_track {config : Config} {after : Config → Prop}
    (fault : config.fault = false) (cs : config.machine.cs = 0#16) (ds : config.machine.ds = 0#16)
    (ip : config.machine.ip = 0x7d44#16)
    (final : after
      { config with
        machine := { config.machine with
          ip := 0x7d48#16
          bx := wordOf (highByte config.machine.bx) (config.machine.memory 0x7c18) } }) :
    Walk (step code bios) (Good floor allowed) after 1 config := by
  obtain ⟨⟨ax, bx, cx, dx, si, di, bp, sp, espHigh, csW, dsW, es, ss, ipW, carry, zero,
    direction, memory⟩, faultB, call, log⟩ := config
  simp only at fault cs ds ip final
  subst fault cs ds ip
  simpa using final

/-- A sector number of 4608 or more has a track number too wide for `AL`. -/
theorem read_faults {config : Config} (entered : Entered floor config)
    (large : 4608 ≤ config.machine.ax.toNat) :
    Runs (step code bios) total (Good floor allowed) config
      (fun later => Faulting later ∧ later.log = config.log) := by
  have room : 6 ≤ config.machine.sp.toNat := le_trans (by omega) entered.room
  have below := entered.below
  apply Runs.walk
  apply build_frame entered
  intro espHigh carry zero
  apply Runs.walk 1
  apply load_sectors_per_track
  · exact entered.ready.fault
  · exact entered.ready.cs
  · exact entered.ready.ds
  · rfl
  apply Runs.here
  have sectors : frameOf config.machine.memory config.machine.sp config.machine.bp
      config.machine.bx (lowByte config.machine.cx) 0x7c18 = 18 :=
    (frame_above room (by omega)).trans (image_sec_per_trk entered.ready.intact)
  have quotient : 256 ≤ config.machine.ax.toNat / 18 := by omega
  refine ⟨⟨entered.ready.fault, .div8 bl, 0x7d4a, ?_, ?_⟩, rfl⟩
  · simp only [entered.ready.cs]
    rfl
  · simp [sectors, quotient]

end BootSector.ReadOneSector
