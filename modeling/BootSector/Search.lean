import BootSector.Floppy
import BootSector.ReadOneSector
import Mathlib.Tactic.IntervalCases

/-!
# Search loader.bin

Three nested loops look through the root directory: over its sectors, over the
sixteen slots of a sector, over the eleven letters of a name. The inner two
work on the buffer and change registers only.
-/

namespace BootSector.Search

open RealMode Bios Program Floppy Execution Assertion

attribute [local simp] Walk step code lineAt searchLines perform resume Machine.faults
  Machine.execute Machine.push Machine.top Machine.load8 Machine.store8 Machine.load16
  Machine.store16 Machine.value8 Machine.value16 Machine.reg8 Machine.setReg8 Machine.reg16
  Machine.setReg16 Machine.segment Machine.setSegment Machine.offset Machine.withFlags
  Machine.aluResult Machine.aluCarry Machine.stores Machine.stored8 Machine.stored16
  Machine.lowered Machine.asks Instr.interrupts Good Ended LabelSafe LineSafe

attribute [local simp] start searchInRootDirectoryBegin searchForLoaderBin compareFileName
  goOn different goToNextSectorInRootDirectory noLoaderBin fileNameFound goOnLoadingFile
  fileLoaded readOneSector rootDirectorySizeForLoop sectorNumber loaderFileName baseOfStack

attribute [-simp] BitVec.toNat_add BitVec.toNat_sub

variable {floor : Nat} {allowed : Allowed} {bios : Services}
  {disk : Disk} {total : Prop} {failures : Nat → Nat}

section Walks

variable {config : Config} {after : Config → Prop}

theorem match_letter (fault : config.fault = false) (cs : config.machine.cs = 0#16)
    (ds : config.machine.ds = 0#16) (es : config.machine.es = 0#16)
    (ip : config.machine.ip = compareFileName) (forward : config.machine.direction = false)
    (more : config.machine.cx ≠ 0#16)
    (agree : config.machine.memory config.machine.si.toNat =
      config.machine.memory config.machine.di.toNat)
    (final : ∀ ax carry zero, after
      { config with
        machine := { config.machine with
          ip := compareFileName
          ax := ax
          cx := config.machine.cx - 1#16
          si := config.machine.si + 1#16
          di := config.machine.di + 1#16
          carry := carry
          zero := zero } }) :
    Walk (step code bios) (Good floor allowed) after 8 config := by
  obtain ⟨⟨ax, bx, cx, dx, si, di, bp, sp, espHigh, csW, dsW, esW, ss, ipW, carry, zero,
    direction, memory⟩, faultB, call, log⟩ := config
  simp only at fault cs ds es ip forward more agree final
  subst fault cs ds es ip forward
  simp [more, agree]
  exact final _ _ _

theorem differ_letter (fault : config.fault = false) (cs : config.machine.cs = 0#16)
    (ds : config.machine.ds = 0#16) (es : config.machine.es = 0#16)
    (ip : config.machine.ip = compareFileName) (forward : config.machine.direction = false)
    (sp : config.machine.sp = baseOfStack) (more : config.machine.cx ≠ 0#16)
    (differ : config.machine.memory config.machine.si.toNat ≠
      config.machine.memory config.machine.di.toNat)
    (final : ∀ ax carry zero, after
      { config with
        machine := { config.machine with
          ip := searchForLoaderBin
          ax := ax
          cx := config.machine.cx - 1#16
          si := loaderFileName
          di := (config.machine.di &&& 0xffe0#16) + 0x20#16
          carry := carry
          zero := zero } }) :
    Walk (step code bios) (Good floor allowed) after 11 config := by
  obtain ⟨⟨ax, bx, cx, dx, si, di, bp, spW, espHigh, csW, dsW, esW, ss, ipW, carry, zero,
    direction, memory⟩, faultB, call, log⟩ := config
  simp only at fault cs ds es ip forward sp more differ final
  subst fault cs ds es ip forward sp
  have nonzero : ¬memory si.toNat - memory di.toNat = 0#8 :=
    fun same => differ (sub_eq_zero.mp same)
  simp [more, nonzero]
  exact final _ _ _

theorem name_found (fault : config.fault = false) (cs : config.machine.cs = 0#16)
    (ip : config.machine.ip = compareFileName) (done : config.machine.cx = 0#16)
    (final : ∀ carry zero, after
      { config with
        machine := { config.machine with ip := fileNameFound, carry := carry, zero := zero } }) :
    Walk (step code bios) (Good floor allowed) after 2 config := by
  obtain ⟨⟨ax, bx, cx, dx, si, di, bp, sp, espHigh, csW, ds, es, ss, ipW, carry, zero,
    direction, memory⟩, faultB, call, log⟩ := config
  simp only at fault cs ip done final
  subst fault cs ip done
  simp
  exact final _ _

theorem take_slot (fault : config.fault = false) (cs : config.machine.cs = 0#16)
    (ip : config.machine.ip = searchForLoaderBin) (sp : config.machine.sp = baseOfStack)
    (more : config.machine.dx ≠ 0#16)
    (final : ∀ carry zero, after
      { config with
        machine := { config.machine with
          ip := compareFileName
          cx := 11#16
          dx := config.machine.dx - 1#16
          carry := carry
          zero := zero } }) :
    Walk (step code bios) (Good floor allowed) after 4 config := by
  obtain ⟨⟨ax, bx, cx, dx, si, di, bp, spW, espHigh, csW, ds, es, ss, ipW, carry, zero,
    direction, memory⟩, faultB, call, log⟩ := config
  simp only at fault cs ip sp more final
  subst fault cs ip sp
  simp [more]
  exact final _ _

theorem next_sector (fault : config.fault = false) (cs : config.machine.cs = 0#16)
    (ds : config.machine.ds = 0#16) (ip : config.machine.ip = searchForLoaderBin)
    (sp : config.machine.sp = baseOfStack) (done : config.machine.dx = 0#16)
    (final : ∀ carry zero, after
      { config with
        machine := { config.machine with
          ip := searchInRootDirectoryBegin
          carry := carry
          zero := zero
          memory := config.machine.memory.setWord 0#16 sectorNumber
            (config.machine.memory.word 0#16 sectorNumber + 1#16) } }) :
    Walk (step code bios) (Good floor allowed) after 4 config := by
  obtain ⟨⟨ax, bx, cx, dx, si, di, bp, spW, espHigh, csW, dsW, es, ss, ipW, carry, zero,
    direction, memory⟩, faultB, call, log⟩ := config
  simp only at fault cs ds ip sp done final
  subst fault cs ds ip sp done
  simp
  exact ⟨⟨.inr (.inl (by decide)), .inr (.inl (by decide))⟩, final _ _⟩

theorem call_read {remaining sector : Word} (fault : config.fault = false)
    (cs : config.machine.cs = 0#16) (ds : config.machine.ds = 0#16)
    (ss : config.machine.ss = 0#16) (ip : config.machine.ip = searchInRootDirectoryBegin)
    (sp : config.machine.sp = baseOfStack) (low : floor ≤ 0x7bfe)
    (left : config.machine.memory.word 0#16 rootDirectorySizeForLoop = remaining)
    (more : remaining ≠ 0#16)
    (next : config.machine.memory.word 0#16 sectorNumber = sector)
    (final : ∀ carry zero, after
      { config with
        machine := { config.machine with
          ip := readOneSector
          ax := sector
          bx := 0x8000#16
          cx := wordOf (highByte config.machine.cx) 1#8
          es := 0#16
          sp := 0x7bfe#16
          carry := carry
          zero := zero
          memory := (config.machine.memory.setWord 0#16 rootDirectorySizeForLoop
            (remaining - 1#16)).setWord 0#16 0x7bfe#16 0x7ca0#16 }
        call := ⟨readOneSector, 0x7ca0#16, sector⟩ }) :
    Walk (step code bios) (Good floor allowed) after 9 config := by
  obtain ⟨⟨ax, bx, cx, dx, si, di, bp, spW, espHigh, csW, dsW, es, ssW, ipW, carry, zero,
    direction, memory⟩, faultB, call, log⟩ := config
  simp only at fault cs ds ss ip sp left next final
  subst fault cs ds ss ip sp
  have kept : (memory.setWord 0#16 0x7db7#16 (remaining - 1#16)).word 0#16 0x7db9#16 = sector :=
    (Memory.word_set_word_apart _ (by decide) (by decide) (by decide)).trans next
  simp only [rootDirectorySizeForLoop] at left
  simp [left, more, kept]
  exact ⟨⟨.inr (.inl (by decide)), .inr (.inl (by decide))⟩,
    ⟨⟨.inl ⟨low, by decide⟩, .inl ⟨by omega, by decide⟩⟩, low⟩, final _ _⟩

theorem none_left (fault : config.fault = false) (cs : config.machine.cs = 0#16)
    (ds : config.machine.ds = 0#16) (ip : config.machine.ip = searchInRootDirectoryBegin)
    (left : config.machine.memory.word 0#16 rootDirectorySizeForLoop = 0#16)
    (final : ∀ carry zero, after
      { config with
        machine := { config.machine with ip := noLoaderBin, carry := carry, zero := zero } }) :
    Walk (step code bios) (Good floor allowed) after 2 config := by
  obtain ⟨⟨ax, bx, cx, dx, si, di, bp, sp, espHigh, csW, dsW, es, ss, ipW, carry, zero,
    direction, memory⟩, faultB, call, log⟩ := config
  simp only at fault cs ds ip left final
  subst fault cs ds ip
  simp only [rootDirectorySizeForLoop] at left
  simp [left]
  exact final _ _

theorem first_slot (fault : config.fault = false) (cs : config.machine.cs = 0#16)
    (ip : config.machine.ip = 0x7ca0#16)
    (final : after
      { config with
        machine := { config.machine with
          ip := searchForLoaderBin
          si := loaderFileName
          di := 0x8000#16
          dx := 0x10#16
          direction := false } }) :
    Walk (step code bios) (Good floor allowed) after 4 config := by
  obtain ⟨⟨ax, bx, cx, dx, si, di, bp, sp, espHigh, csW, ds, es, ss, ipW, carry, zero,
    direction, memory⟩, faultB, call, log⟩ := config
  simp only at fault cs ip final
  subst fault cs ip
  simpa using final

end Walks

section Loops

variable {entry config : Config} {slot matched : Nat}

/-- The machine between the label at hand and `entry`, the return of
ReadOneSector: neither memory nor the log has changed. -/
structure Scanning (entry config : Config) : Prop where
  fault : config.fault = false
  cs : config.machine.cs = 0#16
  ds : config.machine.ds = 0#16
  es : config.machine.es = 0#16
  ss : config.machine.ss = 0#16
  sp : config.machine.sp = baseOfStack
  bx : config.machine.bx = entry.machine.bx
  forward : config.machine.direction = false
  memory : config.machine.memory = entry.machine.memory
  log : config.log = entry.log

structure AtSlot (slot : Nat) (entry config : Config) : Prop extends Scanning entry config where
  ip : config.machine.ip = searchForLoaderBin
  si : config.machine.si = loaderFileName
  di : config.machine.di = BitVec.ofNat 16 (0x8000 + 32 * slot)
  dx : config.machine.dx = BitVec.ofNat 16 (16 - slot)

/-- At `CompareFileName`, `matched` letters of the slot's name behind. -/
structure Comparing (slot matched : Nat) (entry config : Config) : Prop extends
    Scanning entry config where
  ip : config.machine.ip = compareFileName
  si : config.machine.si = BitVec.ofNat 16 (0x7ddb + matched)
  di : config.machine.di = BitVec.ofNat 16 (0x8000 + 32 * slot + matched)
  cx : config.machine.cx = BitVec.ofNat 16 (11 - matched)
  dx : config.machine.dx = BitVec.ofNat 16 (15 - slot)

structure Found (slot : Nat) (entry config : Config) : Prop extends Scanning entry config where
  ip : config.machine.ip = fileNameFound
  di : config.machine.di = BitVec.ofNat 16 (0x8000 + 32 * slot + 11)

def SlotNamed (memory : Memory) (slot : Nat) : Prop :=
  ∀ place < 11, memory (0x8000 + 32 * slot + place) = loaderName.getD place 0

theorem image_loader_name {memory : Memory} (intact : Intact memory) {place : Nat}
    (bound : place < 11) : memory (0x7ddb + place) = loaderName.getD place 0 := by
  have same : ∀ place < 11, imageByte (0x1db + place) = loaderName.getD place 0 := by
    decide +kernel
  rw [← same place bound, ← intact (0x1db + place) (by omega) (by omega)]
  congr 1
  omega

/-- `AND DI, 0FFE0h` goes back to the start of the slot. -/
theorem slot_start (slot place : Nat) (inside : place < 32) :
    BitVec.ofNat 16 (0x8000 + 32 * slot + place) &&& 0xffe0#16 =
      BitVec.ofNat 16 (0x8000 + 32 * slot) := by
  have cleared : ∀ word : Word, word &&& 0xffe0#16 = word >>> 5 <<< 5 := by
    intro word
    ext index bound
    interval_cases index <;> simp
  apply BitVec.eq_of_toNat_eq
  rw [cleared]
  simp [Nat.shiftRight_eq_div_pow, Nat.shiftLeft_eq]
  omega

/-- The name comparison decides whether the slot holds the loader's name. -/
theorem compare_name (intact : Intact entry.machine.memory) (bound : slot < 16) :
    ∀ matched config, Comparing slot matched entry config → matched ≤ 11 →
      (∀ place < matched,
        entry.machine.memory (0x8000 + 32 * slot + place) = loaderName.getD place 0) →
      Runs (step code bios) total (Good floor allowed) config (fun later =>
        (SlotNamed entry.machine.memory slot ∧ Found slot entry later) ∨
          (¬SlotNamed entry.machine.memory slot ∧ AtSlot (slot + 1) entry later)) := by
  intro matched
  induction left : 11 - matched generalizing matched with
  | zero =>
      intro config comparing within agreed
      have all : matched = 11 := by omega
      subst all
      apply Runs.walk
      apply name_found comparing.fault comparing.cs comparing.ip comparing.cx
      intro carry zero
      apply Runs.here
      exact .inl ⟨agreed, { comparing.toScanning with ip := rfl, di := comparing.di }⟩
  | succ left ih =>
      intro config comparing within agreed
      have more : config.machine.cx ≠ 0#16 := by
        rw [comparing.cx]
        bv_omega
      have letter : config.machine.memory config.machine.si.toNat = loaderName.getD matched 0 := by
        rw [comparing.si, comparing.memory, BitVec.toNat_ofNat, Nat.mod_eq_of_lt (by omega)]
        exact image_loader_name intact (by omega)
      have byte : config.machine.memory config.machine.di.toNat =
          entry.machine.memory (0x8000 + 32 * slot + matched) := by
        rw [comparing.di, comparing.memory, BitVec.toNat_ofNat, Nat.mod_eq_of_lt (by omega)]
      by_cases agree : entry.machine.memory (0x8000 + 32 * slot + matched) =
          loaderName.getD matched 0
      · apply Runs.walk
        apply match_letter comparing.fault comparing.cs comparing.ds comparing.es comparing.ip
          comparing.forward more (by rw [letter, byte, agree])
        intro ax carry zero
        apply ih (matched + 1) (by omega) _ _ (by omega)
        · intro place before
          rcases Nat.lt_succ_iff_lt_or_eq.mp before with earlier | rfl
          · exact agreed place earlier
          · exact agree
        · exact
            { comparing.toScanning with
              ip := rfl
              dx := comparing.dx
              si := by
                simp only [comparing.si]
                bv_omega
              di := by
                simp only [comparing.di]
                bv_omega
              cx := by
                simp only [comparing.cx]
                bv_omega }
      · apply Runs.walk
        apply differ_letter comparing.fault comparing.cs comparing.ds comparing.es comparing.ip
          comparing.forward comparing.sp more (by rw [letter, byte]; exact Ne.symm agree)
        intro ax carry zero
        apply Runs.here
        refine .inr ⟨fun named => agree (named matched (by omega)), ?_⟩
        exact
          { comparing.toScanning with
            ip := rfl
            si := rfl
            dx := comparing.dx.trans (by congr 1; omega)
            di := by
              simp only [comparing.di, slot_start slot matched (by omega)]
              bv_omega }

/-- The slots are compared in order, up to the first that holds the name. -/
theorem compare_slots (intact : Intact entry.machine.memory) :
    ∀ slot config, AtSlot slot entry config → slot ≤ 16 →
      (∀ earlier < slot, ¬SlotNamed entry.machine.memory earlier) →
      Runs (step code bios) total (Good floor allowed) config (fun later =>
        (∃ found < 16, SlotNamed entry.machine.memory found ∧
          (∀ earlier < found, ¬SlotNamed entry.machine.memory earlier) ∧
          Found found entry later) ∨
        ((∀ slot < 16, ¬SlotNamed entry.machine.memory slot) ∧ AtSlot 16 entry later)) := by
  intro slot
  induction left : 16 - slot generalizing slot with
  | zero =>
      intro config atSlot within unnamed
      have all : slot = 16 := by omega
      subst all
      exact .here (.inr ⟨unnamed, atSlot⟩)
  | succ left ih =>
      intro config atSlot within unnamed
      apply Runs.walk
      apply take_slot atSlot.fault atSlot.cs atSlot.ip atSlot.sp
      · rw [atSlot.dx]
        bv_omega
      intro carry zero
      have comparing : Comparing slot 0 entry
          { config with
            machine := { config.machine with
              ip := compareFileName, cx := 11#16, dx := config.machine.dx - 1#16
              carry := carry, zero := zero } } :=
        { atSlot.toScanning with
          ip := rfl
          si := atSlot.si
          di := atSlot.di
          cx := rfl
          dx := by
            simp only [atSlot.dx]
            bv_omega }
      apply (compare_name intact (by omega) 0 _ comparing (by omega)
        (fun _ early => absurd early (Nat.not_lt_zero _))).bind
      rintro later (⟨named, found⟩ | ⟨different, next⟩)
      · exact .here (.inl ⟨slot, by omega, named, unnamed, found⟩)
      · apply ih (slot + 1) (by omega) _ next (by omega)
        intro earlier before
        rcases Nat.lt_succ_iff_lt_or_eq.mp before with less | rfl
        · exact unnamed earlier less
        · exact different

end Loops

section Sector

variable {sector : Nat} {config : Config}

structure AtSector (sector : Nat) (config : Config) : Prop where
  ready : Ready config
  ip : config.machine.ip = searchInRootDirectoryBegin
  sp : config.machine.sp = baseOfStack
  es : config.machine.es = 0#16
  bx : 0 < sector → config.machine.bx = 0x8000#16
  left : config.machine.memory.word 0#16 rootDirectorySizeForLoop = BitVec.ofNat 16 (14 - sector)
  next : config.machine.memory.word 0#16 sectorNumber = BitVec.ofNat 16 (19 + sector)

structure AtFound (slot : Nat) (config : Config) : Prop where
  ready : Ready config
  ip : config.machine.ip = fileNameFound
  sp : config.machine.sp = baseOfStack
  es : config.machine.es = 0#16
  di : config.machine.di = BitVec.ofNat 16 (0x8000 + 32 * slot + 11)
  bound : slot < 16

def rootRequest (sector : Nat) : Request := .ofLba 1 (19 + sector) 0#16 0x8000#16

def rootCall (sector : Nat) : Call := ⟨readOneSector, 0x7ca0#16, BitVec.ofNat 16 (19 + sector)⟩

structure Searched (disk : Disk) (sector : Nat) (entry config : Config) : Prop where
  log : settled config.log =
    settled entry.log ++ [.read (rootCall sector) (rootRequest sector) false]
  frame : ∀ address, 0x7c00 ≤ address → address < 0xa0000 →
    ¬(0x7db7 ≤ address ∧ address < 0x7dbb) → ¬(rootRequest sector).Covers address →
      config.machine.memory address = entry.machine.memory address
  data : ∀ index < 512,
    config.machine.memory (0x8000 + index) = disk (512 * (19 + sector) + index)

theorem root_request_start (sector : Nat) : (rootRequest sector).start = 0x8000 := by
  simp [rootRequest, Request.ofLba, Request.start]

theorem root_request_size (sector : Nat) : (rootRequest sector).size = 512 := rfl

theorem root_request_covers (sector address : Nat) :
    (rootRequest sector).Covers address ↔ 0x8000 ≤ address ∧ address < 0x8200 := by
  rw [Request.Covers, root_request_start, root_request_size]

theorem root_request_on_disk (within : sector < 14) : (rootRequest sector).OnDisk := by
  refine ⟨(Request.well_formed_iff _).mpr ?_, ?_⟩
  · simp [rootRequest, Request.ofLba, Request.size, Request.start]
    omega
  · simp only [rootRequest, Request.lba_of_lba]
    simp only [Request.ofLba]
    omega

theorem slot_named {memory : Memory}
    (data : ∀ index < 512, memory (0x8000 + index) = disk (512 * (19 + sector) + index))
    {slot : Nat} (bound : slot < 16) :
    SlotNamed memory slot ↔ Named disk (16 * sector + slot) := by
  have same : ∀ place < 11, memory (0x8000 + 32 * slot + place) =
      rootByte disk (16 * sector + slot) place := by
    intro place small
    rw [rootByte, show 512 * 19 + 32 * (16 * sector + slot) + place =
      512 * (19 + sector) + (32 * slot + place) by omega, ← data _ (by omega), add_assoc]
  constructor
  · intro named place small
    rw [← same place small, named place small]
  · intro named place small
    rw [same place small, named place small]

theorem loader_slot_some {memory : Memory}
    (data : ∀ index < 512, memory (0x8000 + index) = disk (512 * (19 + sector) + index))
    {slot : Nat} (bound : slot < 16) (named : SlotNamed memory slot)
    (first : ∀ earlier < slot, ¬SlotNamed memory earlier) :
    loaderSlot disk sector = some slot := by
  refine loader_slot_eq_some.mpr ⟨(slot_named data bound).mp named, bound, ?_⟩
  intro earlier less
  exact mt (slot_named data (by omega)).mpr (first earlier less)

theorem loader_slot_none {memory : Memory}
    (data : ∀ index < 512, memory (0x8000 + index) = disk (512 * (19 + sector) + index))
    (unnamed : ∀ slot < 16, ¬SlotNamed memory slot) : loaderSlot disk sector = none := by
  refine loader_slot_eq_none.mpr ?_
  intro slot bound
  exact mt (slot_named data bound).mpr (unnamed slot bound)

def calling (memory : Memory) (sector : Nat) : Memory :=
  (memory.setWord 0#16 rootDirectorySizeForLoop (BitVec.ofNat 16 (14 - sector) - 1#16)).setWord
    0#16 0x7bfe#16 0x7ca0#16

theorem calling_above (memory : Memory) (sector : Nat) {address : Nat} (above : 0x7c00 ≤ address)
    (other : ¬(0x7db7 ≤ address ∧ address < 0x7db9)) :
    calling memory sector address = memory address := by
  simp only [calling, rootDirectorySizeForLoop, Memory.set_word_apply]
  rw [if_neg, if_neg, if_neg, if_neg] <;> simp <;> omega

theorem calling_left (memory : Memory) (within : sector < 14) :
    (calling memory sector).word 0#16 rootDirectorySizeForLoop =
      BitVec.ofNat 16 (14 - (sector + 1)) := by
  rw [calling, rootDirectorySizeForLoop,
    Memory.word_set_word_apart _ (by decide) (by decide) (by decide), Memory.word_set_word]
  bv_omega

theorem calling_next (memory : Memory) (sector : Nat) :
    (calling memory sector).word 0#16 sectorNumber = memory.word 0#16 sectorNumber := by
  simp only [calling, rootDirectorySizeForLoop, sectorNumber]
  rw [Memory.word_set_word_apart _ (by decide) (by decide) (by decide),
    Memory.word_set_word_apart _ (by decide) (by decide) (by decide)]

structure Fetched (disk : Disk) (sector : Nat) (entry config : Config) : Prop extends
    Searched disk sector entry config where
  ready : Ready config
  ip : config.machine.ip = 0x7ca0#16
  sp : config.machine.sp = baseOfStack
  es : config.machine.es = 0#16
  bx : config.machine.bx = 0x8000#16
  left : config.machine.memory.word 0#16 rootDirectorySizeForLoop =
    BitVec.ofNat 16 (14 - (sector + 1))
  next : config.machine.memory.word 0#16 sectorNumber = BitVec.ofNat 16 (19 + sector)

theorem fetch (honours : Honours bios disk)
    (serves : total → Serves bios failures (rootRequest sector)) (room : floor + 6 ≤ 0x7bfe)
    (atSector : AtSector sector config) (within : sector < 14)
    (permitted : allowed.read (rootCall sector) (rootRequest sector)) :
    Advances (step code bios) total (Good floor allowed) config (Fetched disk sector config) := by
  obtain ⟨ready, ip, sp, es, bx, left, next⟩ := atSector
  apply Runs.advance
  apply call_read ready.fault ready.cs ready.ds ready.ss ip sp (by omega) left _ next
  swap
  · bv_omega
  intro carry zero
  have called : ReadOneSector.Called floor 1 (19 + sector)
      { config with
        machine := { config.machine with
          ip := readOneSector
          ax := BitVec.ofNat 16 (19 + sector)
          bx := 0x8000#16
          cx := wordOf (highByte config.machine.cx) 1#8
          es := 0#16
          sp := 0x7bfe#16
          carry := carry
          zero := zero
          memory := calling config.machine.memory sector }
        call := rootCall sector } :=
    { ready :=
        { fault := ready.fault, cs := ready.cs, ds := ready.ds, ss := ready.ss
          intact := ready.intact.of_agree (fun address lower upper outside =>
            calling_above _ _ lower (by omega)) }
      ip := rfl
      room := room
      below := le_refl 0x7bfe
      ax := rfl
      small := by omega
      cl := low_byte_word_of ..
      counted := .inl rfl
      track := by omega
      buffer := .inl ⟨rfl, rfl⟩ }
  apply (ReadOneSector.read_one_sector honours serves called permitted).mono (fun _ => id)
  intro back returned
  have frame : ∀ address, 0x7bfe ≤ address → address < 0xa0000 →
      ¬(rootRequest sector).Covers address → back.machine.memory address =
        calling config.machine.memory sector address := returned.frame
  have data : ∀ index < 512,
      back.machine.memory (0x8000 + index) = disk (512 * (19 + sector) + index) := by
    intro index bound
    have delivered := returned.data index bound
    rwa [show ReadOneSector.asked 1 (19 + sector) _ = rootRequest sector from rfl,
      root_request_start] at delivered
  have word : ∀ offset : Word, 0x7bfe ≤ offset.toNat → offset.toNat < 0x7fff →
      back.machine.memory.word 0#16 offset =
        (calling config.machine.memory sector).word 0#16 offset := by
    intro offset lower upper
    apply Memory.word_congr
    · simp only [physical_zero]
      exact frame _ lower (by omega) (by rw [root_request_covers]; omega)
    · simp only [physical_zero]
      exact frame _ (by bv_omega) (by bv_omega) (by rw [root_request_covers]; bv_omega)
  exact
    { ready :=
        { fault := returned.fault, cs := returned.cs, ds := returned.ds, ss := returned.ss
          intact := called.ready.intact.of_agree (fun address lower upper outside =>
            frame address (by omega) (by omega) (by rw [root_request_covers]; omega)) }
      ip := returned.ip.trans (Memory.word_set_word ..)
      sp := returned.sp
      es := returned.es
      bx := returned.bx
      left := (word _ (by decide) (by decide)).trans (calling_left _ within)
      next := ((word _ (by decide) (by decide)).trans (calling_next _ _)).trans next
      log := returned.log
      data := data
      frame := fun address lower upper other outside =>
        (frame address (by omega) upper outside).trans (calling_above _ _ lower (by omega)) }

/-- A sector of the directory is read and searched to its first match. -/
theorem search_sector (honours : Honours bios disk)
    (serves : total → Serves bios failures (rootRequest sector)) (room : floor + 6 ≤ 0x7bfe)
    (atSector : AtSector sector config) (within : sector < 14)
    (permitted : allowed.read (rootCall sector) (rootRequest sector)) :
    Advances (step code bios) total (Good floor allowed) config (fun later =>
      Searched disk sector config later ∧
        match loaderSlot disk sector with
        | some slot => AtFound slot later
        | none => AtSector (sector + 1) later) := by
  apply (fetch honours serves room atSector within permitted).bind
  intro back fetched
  apply Runs.walk
  apply first_slot fetched.ready.fault fetched.ready.cs fetched.ip
  have atSlot : AtSlot 0 back
      { back with
        machine := { back.machine with
          ip := searchForLoaderBin, si := loaderFileName, di := 0x8000#16, dx := 0x10#16
          direction := false } } :=
    { fault := fetched.ready.fault, cs := fetched.ready.cs, ds := fetched.ready.ds
      es := fetched.es, ss := fetched.ready.ss, sp := fetched.sp, bx := rfl, forward := rfl
      memory := rfl, log := rfl, ip := rfl, si := rfl, di := rfl, dx := rfl }
  apply (compare_slots fetched.ready.intact 0 _ atSlot (by omega)
    (fun _ early => absurd early (Nat.not_lt_zero _))).bind
  rintro later (⟨slot, bound, named, first, found⟩ | ⟨unnamed, past⟩)
  · apply Runs.here
    rw [loader_slot_some fetched.data bound named first]
    refine ⟨?_, ?_⟩
    · exact
        { log := by rw [found.log, fetched.log]
          frame := by rw [found.memory]; exact fetched.frame
          data := by rw [found.memory]; exact fetched.data }
    · exact
        { ready :=
            { fault := found.fault, cs := found.cs, ds := found.ds, ss := found.ss
              intact := by rw [found.memory]; exact fetched.ready.intact }
          ip := found.ip, sp := found.sp, es := found.es, di := found.di, bound := bound }
  · rw [loader_slot_none fetched.data unnamed]
    apply Runs.walk
    apply next_sector past.fault past.cs past.ds past.ip past.sp past.dx
    intro carry zero
    apply Runs.here
    have kept : ∀ address, ¬(0x7db9 ≤ address ∧ address < 0x7dbb) →
        later.machine.memory.setWord 0#16 sectorNumber
          (later.machine.memory.word 0#16 sectorNumber + 1#16) address =
            back.machine.memory address := by
      intro address other
      rw [past.memory, sectorNumber, Memory.set_word_apply, if_neg, if_neg] <;> simp <;> omega
    refine ⟨?_, ?_⟩
    · exact
        { log := by rw [← fetched.log, ← past.log]
          frame := fun address lower upper other outside =>
            (kept address (by omega)).trans (fetched.frame address lower upper other outside)
          data := fun index bound => (kept _ (by omega)).trans (fetched.data index bound) }
    · exact
        { ready :=
            { fault := past.fault, cs := past.cs, ds := past.ds, ss := past.ss
              intact := fetched.ready.intact.of_agree (fun address lower upper outside =>
                kept address (by omega)) }
          ip := rfl, sp := past.sp, es := past.es
          bx := fun _ => past.bx.trans fetched.bx
          left := by
            rw [← fetched.left, ← past.memory]
            exact Memory.word_set_word_apart _ (by decide) (by decide) (by decide)
          next := by
            refine (Memory.word_set_word ..).trans ?_
            rw [past.memory, fetched.next]
            bv_omega }

structure AtMissing (config : Config) : Prop where
  ready : Ready config
  ip : config.machine.ip = noLoaderBin
  sp : config.machine.sp = baseOfStack
  es : config.machine.es = 0#16
  bx : config.machine.bx = 0x8000#16

theorem search_over (atSector : AtSector 14 config) :
    Advances (step code bios) total (Good floor allowed) config (fun later =>
      AtMissing later ∧ later.log = config.log ∧
        later.machine.memory = config.machine.memory) := by
  obtain ⟨ready, ip, sp, es, bx, left, next⟩ := atSector
  apply Runs.advance
  apply none_left ready.fault ready.cs ready.ds ip left
  intro carry zero
  apply Runs.here
  exact ⟨⟨⟨ready.fault, ready.cs, ready.ds, ready.ss, ready.intact⟩, rfl, sp, es, bx (by omega)⟩,
    rfl, rfl⟩

end Sector

end BootSector.Search
