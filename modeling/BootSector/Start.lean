import BootSector.Search

/-!
# Start

From the BIOS's jump to `0000:7C00` to the search: segments and stack, three
video calls, the drive reset, and the sector number the search begins with.
-/

namespace BootSector.Start

open RealMode Bios Program Execution Assertion

attribute [local simp] Walk step code lineAt entryLines startLines perform resume Machine.faults
  Machine.execute Machine.push Machine.top Machine.load8 Machine.store8 Machine.load16
  Machine.store16 Machine.value8 Machine.value16 Machine.reg8 Machine.setReg8 Machine.reg16
  Machine.setReg16 Machine.segment Machine.setSegment Machine.offset Machine.withFlags
  Machine.aluResult Machine.aluCarry Machine.stores Machine.stored8 Machine.stored16
  Machine.lowered Machine.asks Machine.isRead diskEvent Instr.interrupts Good Ended LabelSafe
  LineSafe

attribute [local simp] start searchInRootDirectoryBegin searchForLoaderBin noLoaderBin
  fileNameFound goOnLoadingFile fileLoaded readOneSector getFATEntry sectorNumber
  sectorNumberOfRootDirectoryStart startBootMessage baseOfStack

attribute [-simp] BitVec.toNat_add BitVec.toNat_sub

variable {floor : Nat} {allowed : Allowed} {bios : Services}
  {disk : Nat → Byte} {total : Prop} {config : Config} {after : Config → Prop}

/-- The BIOS has loaded the image and jumped to it. Only `CS` is relied on. -/
structure Entry (config : Config) : Prop where
  fault : config.fault = false
  cs : config.machine.cs = 0#16
  ip : config.machine.ip = 0x7c00#16
  log : config.log = []
  loaded : ∀ index < 512, config.machine.memory (0x7c00 + index) = imageByte index

def powerOn (rest : Memory) : Config where
  machine :=
    { ax := 0, bx := 0, cx := 0, dx := 0, si := 0, di := 0, bp := 0, sp := 0, espHigh := 0
      cs := 0, ds := 0, es := 0, ss := 0, ip := 0x7c00, carry := false, zero := false
      direction := false
      memory := fun address =>
        if 0x7c00 ≤ address ∧ address < 0x7e00 then imageByte (address - 0x7c00)
        else rest address }
  fault := false
  call := ⟨0, 0, 0⟩
  log := []

theorem power_on_entry (rest : Memory) : Entry (powerOn rest) where
  fault := rfl
  cs := rfl
  ip := rfl
  log := rfl
  loaded := fun index bound => by
    simp only [powerOn]
    rw [if_pos (by omega), Nat.add_sub_cancel_left]

structure Issuing (memory : Memory) (machine : Machine) : Prop where
  cs : machine.cs = 0#16
  ds : machine.ds = 0#16
  es : machine.es = 0#16
  ss : machine.ss = 0#16
  sp : machine.sp = baseOfStack
  memory : ∀ address, 0x7c00 ≤ address → machine.memory address = memory address

structure Resumed (entry : Config) (ip : Word) (events : Log) (config : Config) : Prop where
  fault : config.fault = false
  cs : config.machine.cs = 0#16
  ip : config.machine.ip = ip
  ds : config.machine.ds = 0#16
  es : config.machine.es = 0#16
  ss : config.machine.ss = 0#16
  sp : config.machine.sp = baseOfStack
  log : config.log = events
  memory : ∀ address, 0x7c00 ≤ address → address < 0xa0000 →
    config.machine.memory address = entry.machine.memory address

theorem resumed (entry : Config) {memory : Memory} {machine left : Machine} (next : Word)
    (call : Call) (events : Log) (issuing : Issuing memory machine) (keeps : Keeps machine left)
    (same : ∀ address, 0x7c00 ≤ address → address < 0xa0000 →
      memory address = entry.machine.memory address) :
    Resumed entry next events ⟨resume machine left next, false, call, events⟩ where
  fault := rfl
  cs := issuing.cs
  ip := rfl
  ds := keeps.ds.trans issuing.ds
  es := keeps.es.trans issuing.es
  ss := keeps.ss.trans issuing.ss
  sp := keeps.sp.trans issuing.sp
  log := rfl
  memory := fun address lower upper => by
    have owned : Owned machine address := by
      refine ⟨?_, upper⟩
      rw [issuing.ss, issuing.sp, physical_zero]
      exact lower
    rw [← same address lower upper, ← issuing.memory address lower]
    exact keeps.memory address owned

theorem clear_screen (fault : config.fault = false) (cs : config.machine.cs = 0#16)
    (ip : config.machine.ip = 0x7c00#16)
    (final : ∀ machine, Issuing config.machine.memory machine → after
      { config with
        machine := resume machine (bios.video config.log machine) 0x7c57#16
        log := config.log ++ [.video 0x0600#16 0x0700#16] }) :
    Walk (step code bios) (Good floor allowed) after 11 config := by
  obtain ⟨⟨ax, bx, cx, dx, si, di, bp, sp, espHigh, csW, ds, es, ss, ipW, carry, zero,
    direction, memory⟩, faultB, call, log⟩ := config
  simp only at fault cs ip final
  subst fault cs ip
  simp
  simpa using final _ ⟨rfl, rfl, rfl, rfl, rfl, fun _ _ => rfl⟩

theorem set_focus {entry : Config} {events : Log}
    (resumed : Resumed entry 0x7c57#16 events config)
    (final : ∀ machine, Issuing config.machine.memory machine → after
      { config with
        machine := resume machine (bios.video config.log machine) 0x7c62#16
        log := config.log ++ [.video 0x0200#16 0#16] }) :
    Walk (step code bios) (Good floor allowed) after 4 config := by
  obtain ⟨fault, cs, ip, ds, es, ss, sp, log, same⟩ := resumed
  obtain ⟨⟨ax, bx, cx, dx, si, di, bp, spW, espHigh, csW, dsW, esW, ssW, ipW, carry, zero,
    direction, memory⟩, faultB, call, logW⟩ := config
  simp only at fault cs ip ds es ss sp log final
  subst fault cs ip ds es ss sp
  simp
  simpa using final _ ⟨rfl, rfl, rfl, rfl, rfl, fun _ _ => rfl⟩

theorem show_message {entry : Config} {events : Log} (low : floor ≤ 0x7bfe)
    (resumed : Resumed entry 0x7c62#16 events config)
    (final : ∀ machine, Issuing config.machine.memory machine → after
      { config with
        machine := resume machine (bios.video config.log machine) 0x7c79#16
        log := config.log ++ [.video 0x1301#16 0x000f#16] }) :
    Walk (step code bios) (Good floor allowed) after 10 config := by
  obtain ⟨fault, cs, ip, ds, es, ss, sp, log, same⟩ := resumed
  obtain ⟨⟨ax, bx, cx, dx, si, di, bp, spW, espHigh, csW, dsW, esW, ssW, ipW, carry, zero,
    direction, memory⟩, faultB, call, logW⟩ := config
  simp only at fault cs ip ds es ss sp log final
  subst fault cs ip ds es ss sp
  simp
  refine ⟨⟨⟨.inl ⟨low, by decide⟩, .inl ⟨by omega, by decide⟩⟩, low⟩, ?_⟩
  have above : ∀ address, 0x7c00 ≤ address →
      memory.setWord 0#16 0x7bfe#16 0x1301#16 address = memory address :=
    fun address lower => Memory.set_word_above (by simp; omega)
  simpa using final _ ⟨rfl, rfl, rfl, rfl, rfl, above⟩

theorem reset_drive {entry : Config} {events : Log}
    (resumed : Resumed entry 0x7c79#16 events config)
    (final : ∀ machine ax dx, Issuing config.machine.memory machine → machine.isRead = false →
      after { config with
        machine := resume machine (bios.disk config.log machine) 0x7c7f#16
        log := config.log ++ [.disk ax dx] }) :
    Walk (step code bios) (Good floor allowed) after 3 config := by
  obtain ⟨fault, cs, ip, ds, es, ss, sp, log, same⟩ := resumed
  obtain ⟨⟨ax, bx, cx, dx, si, di, bp, spW, espHigh, csW, dsW, esW, ssW, ipW, carry, zero,
    direction, memory⟩, faultB, call, logW⟩ := config
  simp only at fault cs ip ds es ss sp log final
  subst fault cs ip ds es ss sp
  simp
  simpa using final _ _ _ ⟨rfl, rfl, rfl, rfl, rfl, fun _ _ => rfl⟩ (by simp)

theorem first_sector (fault : config.fault = false) (cs : config.machine.cs = 0#16)
    (ds : config.machine.ds = 0#16) (ip : config.machine.ip = 0x7c7f#16)
    (final : after
      { config with
        machine := { config.machine with
          ip := searchInRootDirectoryBegin
          memory := config.machine.memory.setWord 0#16 sectorNumber 19#16 } }) :
    Walk (step code bios) (Good floor allowed) after 1 config := by
  obtain ⟨⟨ax, bx, cx, dx, si, di, bp, sp, espHigh, csW, dsW, es, ss, ipW, carry, zero,
    direction, memory⟩, faultB, call, log⟩ := config
  simp only at fault cs ds ip final
  subst fault cs ds ip
  simp
  exact ⟨⟨.inr (.inl (by decide)), .inr (.inl (by decide))⟩, final⟩

/-- What the start-up code asks of the BIOS; the drive reset leaves `AL` and
`DH` as they happen to be. -/
def startLog (ax dx : Word) : Log :=
  [.video 0x0600#16 0x0700#16, .video 0x0200#16 0#16, .video 0x1301#16 0x000f#16, .disk ax dx]

structure Started (entry config : Config) : Prop where
  search : Search.AtSector 0 config
  log : ∃ ax dx, config.log = startLog ax dx
  frame : ∀ address, 0x7c00 ≤ address → address < 0xa0000 →
    ¬(0x7db9 ≤ address ∧ address < 0x7dbb) →
      config.machine.memory address = entry.machine.memory address

theorem Entry.intact (entry : Entry config) : Intact config.machine.memory :=
  fun index bound _ => entry.loaded index bound

theorem image_root_directory_size (entry : Entry config) :
    config.machine.memory.word 0#16 rootDirectorySizeForLoop = 14#16 := by
  have low : config.machine.memory 0x7db7 = imageByte 0x1b7 := entry.loaded 0x1b7 (by decide)
  have high : config.machine.memory 0x7db8 = imageByte 0x1b8 := entry.loaded 0x1b8 (by decide)
  have bytes : wordOf (imageByte 0x1b8) (imageByte 0x1b7) = 14#16 := by decide +kernel
  rw [← bytes, ← low, ← high]
  rfl

theorem begin_search {entry : Config} {ax dx : Word} (entered : Entry entry)
    (reset : Resumed entry 0x7c7f#16 (startLog ax dx) config) :
    Runs (step code bios) total (Good floor allowed) config (Started entry) := by
  apply Runs.walk
  apply first_sector reset.fault reset.cs reset.ds reset.ip
  apply Runs.here
  have frame : ∀ address, 0x7c00 ≤ address → address < 0xa0000 →
      ¬(0x7db9 ≤ address ∧ address < 0x7dbb) →
        config.machine.memory.setWord 0#16 sectorNumber 19#16 address =
          entry.machine.memory address := by
    intro address lower upper other
    rw [Memory.set_word_apply, if_neg, if_neg]
    · exact reset.memory address lower upper
    all_goals
      simp [sectorNumber]
      omega
  refine ⟨?_, ⟨ax, dx, reset.log⟩, frame⟩
  exact
    { ready :=
        { fault := reset.fault, cs := reset.cs, ds := reset.ds, ss := reset.ss
          intact := entered.intact.of_agree (fun address lower upper outside =>
            frame address lower (by omega) (by omega)) }
      ip := rfl
      sp := reset.sp
      es := reset.es
      bx := fun early => absurd early (Nat.lt_irrefl 0)
      left := by
        refine Eq.trans ?_ (image_root_directory_size entered)
        exact Memory.word_congr (frame 0x7db7 (by omega) (by omega) (by omega))
          (frame 0x7db8 (by omega) (by omega) (by omega))
      next := Memory.word_set_word .. }

theorem reach_search (honours : Honours bios disk) (low : floor ≤ 0x7bfe)
    (entry : Entry config) :
    Runs (step code bios) total (Good floor allowed) config (Started config) := by
  apply Runs.walk
  apply clear_screen entry.fault entry.cs entry.ip
  intro first issuing
  rw [entry.fault, entry.log]
  have cleared := resumed config 0x7c57#16 config.call [.video 0x0600#16 0x0700#16] issuing
    (honours.video [] first) (fun _ _ _ => rfl)
  apply Runs.walk
  apply set_focus cleared
  intro second issuing
  have focused := resumed config 0x7c62#16 config.call
    [.video 0x0600#16 0x0700#16, .video 0x0200#16 0#16] issuing
    (honours.video [.video 0x0600#16 0x0700#16] second) cleared.memory
  apply Runs.walk
  apply show_message low focused
  intro third issuing
  have shown := resumed config 0x7c79#16 config.call
    [.video 0x0600#16 0x0700#16, .video 0x0200#16 0#16, .video 0x1301#16 0x000f#16]
    issuing (honours.video [.video 0x0600#16 0x0700#16, .video 0x0200#16 0#16] third)
    focused.memory
  apply Runs.walk
  apply reset_drive shown
  intro fourth ax dx issuing notRead
  have reset := resumed config 0x7c7f#16 config.call (startLog ax dx) issuing
    (honours.other
      [.video 0x0600#16 0x0700#16, .video 0x0200#16 0#16, .video 0x1301#16 0x000f#16] fourth
      notRead) shown.memory
  exact begin_search entry reset

end BootSector.Start
