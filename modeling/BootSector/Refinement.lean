import BootSector.Finish
import BootSector.Loader
import BootSector.Start

/-!
# The boot sector refines the loader

Every phase of the abstract loader is a label of the program. From that label
the program runs to the label of the next phase, and its log and the memory it
loads into stay those of the abstract run.
-/

namespace BootSector.Refinement

open RealMode Bios Program Floppy Execution Assertion Loader

variable {allowed : Allowed} {bios : Services} {disk : Disk} {total : Prop}
  {failures : Nat → Nat}

structure Permits (allowed : Allowed) (phase : Phase) : Prop where
  reads : ∀ read ∈ phase.reads, allowed.read read.1 read.2
  cluster : ∀ cluster count, phase = .loading cluster count →
    allowed.cluster (BitVec.ofNat 16 cluster)

theorem permits_any (phase : Phase) : Permits .any phase :=
  ⟨fun _ _ => trivial, fun _ _ _ => trivial⟩

theorem permits_reads {allowed : Call → Request → Prop} {phase : Phase}
    (reads : ∀ read ∈ phase.reads, allowed read.1 read.2) :
    Permits ⟨allowed, fun _ => True⟩ phase :=
  ⟨reads, fun _ _ _ => trivial⟩

theorem permits_clusters {allowed : Word → Prop}
    (clusters : ∀ file count, FirstLoader disk file →
      allowed (BitVec.ofNat 16 (fileCluster disk file count))) (position : Nat) :
    Permits ⟨fun _ _ => True, allowed⟩ (phaseAt disk position) := by
  refine ⟨fun _ _ => trivial, fun cluster count phase => ?_⟩
  have valid := phase_at_valid disk position
  rw [phase] at valid
  obtain ⟨file, found, rfl, _⟩ := valid
  exact clusters file count found

def Place (disk : Disk) : Phase → Config → Prop
  | .scanning sector, config => sector ≤ 14 ∧ Search.AtSector sector config
  | .found entry, config => Search.AtFound (entry % 16) config ∧
      ∀ index < 512, config.machine.memory (0x8000 + index) =
        disk (512 * (19 + entry / 16) + index)
  | .loading cluster count, config => cluster < 65536 ∧ LoadFile.AtCluster cluster count config
  | .loaded count, config => LoadFile.AtEnd count config
  | .missing, config => Search.AtMissing config
  | .faulted, config => Faulting config

/-- The sector buffer and all memory from the load segment up are what the
reads made of them. -/
structure Mirrors (disk : Disk) (memory : Memory) (log : Log) (config : Config) : Prop where
  buffer : ∀ address, 0x8000 ≤ address → address < 0x8400 →
    config.machine.memory address = replay disk memory (completed log) address
  segment : ∀ address, 0x10000 ≤ address → address < 0xa0000 →
    config.machine.memory address = replay disk memory (completed log) address

structure Simulates (disk : Disk) (memory : Memory) (state : State) (config : Config) : Prop where
  place : Place disk state.phase config
  log : settled config.log = state.log
  mirrors : state.phase ≠ .faulted → Mirrors disk memory state.log config

theorem Simulates.place_at {memory : Memory} {log : Log} {position : Nat} {phase : Phase}
    {config : Config} (sim : Simulates disk memory (stateAt disk log position) config)
    (same : phaseAt disk position = phase) : Place disk phase config := by
  have place := sim.place
  simp only [stateAt, same] at place
  exact place

theorem deliver_covered {request : Request} {memory : Memory} {address : Nat}
    (covered : request.Covers address) : deliver disk request memory address =
      disk (512 * request.lba + (address - request.start)) :=
  if_pos covered

theorem deliver_outside {request : Request} {memory : Memory} {address : Nat}
    (outside : ¬request.Covers address) : deliver disk request memory address = memory address :=
  if_neg outside

section Phases

variable {memory : Memory} {state : State} {config : Config}

theorem Mirrors.searched {sector : Nat} {later : Config} {log : Log}
    (mirrors : Mirrors disk memory log config)
    (searched : Search.Searched disk sector config later) :
    Mirrors disk memory
      (log ++ [.read (Search.rootCall sector) (Search.rootRequest sector) false]) later := by
  have reads : completed
      (log ++ [.read (Search.rootCall sector) (Search.rootRequest sector) false]) =
        completed log ++ [(Search.rootCall sector, Search.rootRequest sector)] := by
    rw [completed_append]
    rfl
  constructor
  · intro address lower upper
    rw [reads, replay_append, replay_cons, replay_nil]
    by_cases covered : (Search.rootRequest sector).Covers address
    · obtain ⟨start, ending⟩ := (Search.root_request_covers sector address).mp covered
      rw [deliver_covered covered, Search.root_request_start, Search.rootRequest,
        Request.lba_of_lba, ← searched.data _ (by omega), Nat.add_sub_cancel' lower]
    · rw [deliver_outside covered, searched.frame address (by omega) (by omega) (by omega) covered]
      exact mirrors.buffer address lower upper
  · intro address lower upper
    have outside : ¬(Search.rootRequest sector).Covers address := by
      rw [Search.root_request_covers]
      omega
    rw [reads, replay_append, replay_cons, replay_nil, deliver_outside outside,
      searched.frame address (by omega) (by omega) (by omega) outside]
    exact mirrors.segment address lower upper

theorem Mirrors.turned {cluster count : Nat} {later : Config} {log : Log}
    (mirrors : Mirrors disk memory log config)
    (turned : LoadFile.Turned disk cluster count config later) :
    Mirrors disk memory
      (log ++ [LoadFile.dotEvent count,
        .read (LoadFile.dataCall cluster) (LoadFile.dataRequest cluster count) false,
        .read (GetFATEntry.fatCall cluster) (GetFATEntry.fatRequest cluster) false]) later := by
  have reads : completed
      (log ++ [LoadFile.dotEvent count,
        .read (LoadFile.dataCall cluster) (LoadFile.dataRequest cluster count) false,
        .read (GetFATEntry.fatCall cluster) (GetFATEntry.fatRequest cluster) false]) =
        completed log ++ [(LoadFile.dataCall cluster, LoadFile.dataRequest cluster count),
          (GetFATEntry.fatCall cluster, GetFATEntry.fatRequest cluster)] := by
    rw [completed_append]
    rfl
  constructor
  · intro address lower upper
    have covered : (GetFATEntry.fatRequest cluster).Covers address := by
      rw [GetFATEntry.fat_request_covers]
      omega
    rw [reads, replay_append, replay_cons, replay_cons, replay_nil, deliver_covered covered,
      GetFATEntry.fat_request_start, GetFATEntry.fatRequest, Request.lba_of_lba,
      ← turned.fat _ (by omega), Nat.add_sub_cancel' lower]
  · intro address lower upper
    have outside : ¬(GetFATEntry.fatRequest cluster).Covers address := by
      rw [GetFATEntry.fat_request_covers]
      omega
    rw [reads, replay_append, replay_cons, replay_cons, replay_nil, deliver_outside outside]
    by_cases covered : (LoadFile.dataRequest cluster count).Covers address
    · obtain ⟨start, ending⟩ := (LoadFile.data_request_covers cluster count address).mp covered
      rw [deliver_covered covered, LoadFile.data_request_start, LoadFile.dataRequest,
        Request.lba_of_lba, ← turned.data _ (by omega), Nat.add_sub_cancel' start]
    · rw [deliver_outside covered,
        turned.frame address (by omega) (by omega) (by omega) covered outside]
      exact mirrors.segment address lower upper

theorem Mirrors.of_agree {later : Config} {log : Log} (mirrors : Mirrors disk memory log config)
    (agree : ∀ address, 0x7c00 ≤ address →
      later.machine.memory address = config.machine.memory address) :
    Mirrors disk memory log later where
  buffer := fun address lower upper =>
    (agree address (by omega)).trans (mirrors.buffer address lower upper)
  segment := fun address lower upper =>
    (agree address (by omega)).trans (mirrors.segment address lower upper)

theorem simulate_scanning {sector : Nat} {log : Log} (honours : Honours bios disk)
    (sim : Simulates disk memory ⟨.scanning sector, log⟩ config)
    (permits : Permits allowed (.scanning sector))
    (serves : total → ∀ read ∈ (Phase.scanning sector).reads, Serves bios failures read.2) :
    Advances (step code bios) total (Good 0x7bf0 allowed) config
      (Simulates disk memory (State.next disk ⟨.scanning sector, log⟩)) := by
  obtain ⟨⟨within, atSector⟩, logged, mirrors⟩ := sim
  have mirrored := mirrors nofun
  by_cases past : sector = 14
  · subst past
    apply (Search.search_over atSector).mono (fun _ => id)
    rintro later ⟨atMissing, sameLog, sameMemory⟩
    exact
      { place := atMissing
        log := by
          rw [sameLog, logged]
          exact (List.append_nil log).symm
        mirrors := fun _ => by
          rw [show (State.next disk ⟨.scanning 14, log⟩).log = log from List.append_nil log]
          exact mirrored.of_agree (fun _ _ => by rw [sameMemory]) }
  · have events : (Phase.scanning sector).events =
        [.read (Search.rootCall sector) (Search.rootRequest sector) false] := if_neg past
    have listed : (Search.rootCall sector, Search.rootRequest sector) ∈
        (Phase.scanning sector).reads := by
      simp [Phase.reads, events, completed]
    apply (Search.search_sector honours (fun ends => serves ends _ listed) (by decide) atSector
      (by omega) (permits.reads _ listed)).mono (fun _ => id)
    rintro later ⟨searched, place⟩
    refine
      { place := ?_
        log := by rw [searched.log, State.next, events, logged]
        mirrors := fun _ => by
          rw [State.next, events]
          exact mirrored.searched searched }
    simp only [State.next, Phase.next, if_neg past]
    cases slotted : loaderSlot disk sector with
    | none =>
        rw [slotted] at place
        exact ⟨by omega, place⟩
    | some slot =>
        rw [slotted] at place
        have bound : slot < 16 := place.bound
        have same : (16 * sector + slot) % 16 = slot := by omega
        have back : (16 * sector + slot) / 16 = sector := by omega
        simp only [Place, same, back]
        exact ⟨place, searched.data⟩

/-- The word the program takes from a found slot is the entry's first cluster. -/
theorem found_word {entry : Nat} (data : ∀ index < 512,
    config.machine.memory (0x8000 + index) = disk (512 * (19 + entry / 16) + index)) :
    config.machine.memory.word 0#16 (BitVec.ofNat 16 (0x8000 + 32 * (entry % 16) + 0x1a)) =
      BitVec.ofNat 16 (firstCluster disk entry) := by
  have byte : ∀ offset < 32, config.machine.memory (0x8000 + 32 * (entry % 16) + offset) =
      rootByte disk entry offset := by
    intro offset small
    rw [Nat.add_assoc, data _ (by omega), rootByte]
    congr 1
    omega
  rw [Memory.word_at _ (by omega), Nat.add_assoc _ 0x1a, byte _ (by omega), byte _ (by omega),
    firstCluster, BitVec.ofNat_toNat, BitVec.setWidth_eq]

theorem simulate_found {entry : Nat} {log : Log}
    (sim : Simulates disk memory ⟨.found entry, log⟩ config) :
    Advances (step code bios) total (Good 0x7bf0 allowed) config
      (Simulates disk memory (State.next disk ⟨.found entry, log⟩)) := by
  obtain ⟨⟨atFound, data⟩, logged, mirrors⟩ := sim
  have mirrored := mirrors nofun
  apply (LoadFile.reach_push atFound (found_word data)).bind
  rintro taking ⟨taken, -⟩
  apply (LoadFile.reach_loop taken rfl).mono (fun _ => id)
  rintro later ⟨atCluster, -, sameLog, sameMemory⟩
  exact
    { place := ⟨BitVec.isLt _, atCluster⟩
      log := by
        rw [sameLog, logged]
        exact (List.append_nil log).symm
      mirrors := fun _ => by
        rw [show (State.next disk ⟨.found entry, log⟩).log = log from List.append_nil log]
        exact mirrored.of_agree sameMemory }

theorem simulate_loading {cluster count : Nat} {log : Log} (honours : Honours bios disk)
    (sim : Simulates disk memory ⟨.loading cluster count, log⟩ config)
    (permits : Permits allowed (.loading cluster count))
    (serves : total → ∀ read ∈ (Phase.loading cluster count).reads,
      Serves bios failures read.2) :
    Advances (step code bios) total (Good 0x7bf0 allowed) config
      (Simulates disk memory (State.next disk ⟨.loading cluster count, log⟩)) := by
  obtain ⟨⟨word, atCluster⟩, logged, mirrors⟩ := sim
  have mirrored := mirrors nofun
  have admitted := permits.cluster cluster count rfl
  have data : (LoadFile.dataCall cluster, LoadFile.dataRequest cluster count) ∈
      (Phase.loading cluster count).reads ↔ LoadFile.dataSector cluster < 4608 := by
    by_cases sector : LoadFile.dataSector cluster < 4608 <;> by_cases small : cluster < 4577 <;>
      simp [Phase.reads, Phase.events, completed, LoadFile.dotEvent, sector, small,
        LoadFile.dataCall, GetFATEntry.fatCall]
  by_cases small : cluster < 4577
  · have sector : LoadFile.dataSector cluster < 4608 := by
      simp only [LoadFile.dataSector]
      omega
    have events : (Phase.loading cluster count).events = [LoadFile.dotEvent count,
        .read (LoadFile.dataCall cluster) (LoadFile.dataRequest cluster count) false,
        .read (GetFATEntry.fatCall cluster) (GetFATEntry.fatRequest cluster) false] := by
      simp [Phase.events, sector, small]
    have fat : (GetFATEntry.fatCall cluster, GetFATEntry.fatRequest cluster) ∈
        (Phase.loading cluster count).reads := by
      rw [Phase.reads, events]
      simp [completed, LoadFile.dotEvent]
    apply (LoadFile.load_cluster honours admitted
      (fun ends => ⟨serves ends _ (data.mpr sector), serves ends _ fat⟩) atCluster small
      (permits.reads _ (data.mpr sector)) (permits.reads _ fat)).mono (fun _ => id)
    rintro later ⟨turned, place⟩
    refine
      { place := ?_
        log := by rw [turned.log, State.next, events, logged]
        mirrors := fun _ => by
          rw [State.next, events]
          exact mirrored.turned turned }
    simp only [State.next, Phase.next, if_neg (Nat.not_le.mpr small)]
    by_cases last : Fat12.entry (fat1 disk) cluster = 0xfff
    · rw [if_pos last] at place ⊢
      exact place
    · rw [if_neg last] at place ⊢
      exact ⟨lt_trans (Fat12.entry_lt _ _) (by decide), place⟩
  · have faults : State.next disk ⟨.loading cluster count, log⟩ =
        ⟨.faulted, log ++ (Phase.loading cluster count).events⟩ := by
      simp [State.next, Phase.next, Nat.not_lt.mp small]
    rw [faults]
    by_cases sector : LoadFile.dataSector cluster < 4608
    · have wrapped : 65505 ≤ cluster := by
        simp only [LoadFile.dataSector] at sector
        omega
      apply (LoadFile.wrapped_faults honours admitted
        (fun ends => serves ends _ (data.mpr sector)) atCluster wrapped word
        (permits.reads _ (data.mpr sector))).mono (fun _ => id)
      rintro later ⟨faulting, sameLog⟩
      exact ⟨faulting, by simp [sameLog, logged, Phase.events, sector, small],
        fun running => absurd rfl running⟩
    · apply (LoadFile.load_faults honours admitted atCluster (Nat.not_lt.mp sector)).mono
        (fun _ => id)
      rintro later ⟨faulting, sameLog⟩
      exact ⟨faulting, by simp [sameLog, logged, Phase.events, sector, small],
        fun running => absurd rfl running⟩

theorem simulate (honours : Honours bios disk) (sim : Simulates disk memory state config)
    (running : state.phase.Running)
    (permits : Permits allowed state.phase)
    (serves : total → ∀ read ∈ state.phase.reads, Serves bios failures read.2) :
    Advances (step code bios) total (Good 0x7bf0 allowed) config
      (Simulates disk memory (state.next disk)) := by
  obtain ⟨phase, log⟩ := state
  cases phase with
  | scanning sector => exact simulate_scanning honours sim permits serves
  | found entry => exact simulate_found sim
  | loading cluster count => exact simulate_loading honours sim permits serves
  | loaded count => exact running.elim
  | missing => exact running.elim
  | faulted => exact running.elim

/-- A phase without successor is safe from there on, and unless the division
failed it is sound. -/
theorem stopped_sound (sim : Simulates disk memory state config)
    (stopped : ¬state.phase.Running) (sound : state.phase ≠ .faulted) :
    Forever (step code bios) (Sound 0x7bf0 allowed) config := by
  have place := sim.place
  rcases Phase.ending_cases stopped sound with ⟨count, loaded⟩ | missing
  · rw [loaded] at place
    exact Finish.loaded_sound place
  · rw [missing] at place
    exact Finish.missing_sound (by decide) place

theorem stopped_safe (sim : Simulates disk memory state config)
    (stopped : ¬state.phase.Running) :
    Forever (step code bios) (Safe 0x7bf0 allowed) config := by
  by_cases faulted : state.phase = .faulted
  · have place := sim.place
    rw [faulted] at place
    exact Finish.fault_safe place
  · exact (stopped_sound sim stopped faulted).mono Sound.safe

theorem simulates_initial {entry : Config} (started : Start.Started entry config) :
    Simulates disk entry.machine.memory (stateAt disk config.log 0) config := by
  obtain ⟨search, ⟨ax, dx, logged⟩, frame⟩ := started
  have log : (stateAt disk config.log 0).log = config.log := List.append_nil _
  have unread : completed config.log = [] := by rw [logged]; rfl
  exact
    { place := ⟨by decide, search⟩
      log := by rw [log, logged]; rfl
      mirrors := fun _ => by
        constructor
        · intro address lower upper
          rw [log, unread]
          exact frame address (by omega) (by omega) (by omega)
        · intro address lower upper
          rw [log, unread]
          exact frame address (by omega) (by omega) (by omega) }

end Phases

section WholeRuns

variable {entry : Config}

/-- The program is at the label of a phase, its log that of the abstract run. -/
def Reached (disk : Disk) (entry : Config) (position : Nat) (config : Config) : Prop :=
  ∃ ax dx, Simulates disk entry.machine.memory
    (stateAt disk (Start.startLog ax dx) position) config

theorem start_reached (honours : Honours bios disk) (entered : Start.Entry entry) :
    Runs (step code bios) total (Good 0x7bf0 allowed) entry (Reached disk entry 0) := by
  apply (Start.reach_search honours (by decide) entered).mono (fun _ => id)
  intro later started
  obtain ⟨ax, dx, log⟩ := started.log
  have sim : Simulates disk entry.machine.memory (stateAt disk later.log 0) later :=
    simulates_initial started
  exact ⟨ax, dx, log ▸ sim⟩

theorem next_reached (failures : Nat → Nat) (honours : Honours bios disk) {position : Nat}
    {config : Config}
    (running : (phaseAt disk position).Running)
    (permits : Permits allowed (phaseAt disk position))
    (serves : total → ∀ read ∈ (phaseAt disk position).reads, Serves bios failures read.2)
    (reached : Reached disk entry position config) :
    Advances (step code bios) total (Good 0x7bf0 allowed) config
      (Reached disk entry (position + 1)) := by
  obtain ⟨ax, dx, sim⟩ := reached
  apply (simulate honours sim running permits serves).mono (fun _ => id)
  intro later next
  exact ⟨ax, dx, by rwa [state_at_succ]⟩

/-- A run reaches every phase that the phases before it lead to. -/
theorem run_reaches (failures : Nat → Nat) (count : Nat) (honours : Honours bios disk)
    (entered : Start.Entry entry)
    (running : ∀ position < count, (phaseAt disk position).Running)
    (permits : ∀ position < count, Permits allowed (phaseAt disk position))
    (serves : total → ∀ position < count, ∀ read ∈ (phaseAt disk position).reads,
      Serves bios failures read.2) :
    Runs (step code bios) total (Good 0x7bf0 allowed) entry (Reached disk entry count) := by
  apply (start_reached honours entered).bind
  intro later reached
  refine Runs.chain (Reached disk entry) ?_ reached
  intro position bound config reached
  exact next_reached failures honours (running position bound) (permits position bound)
    (fun ends => serves ends position bound) reached

/-- Where the reads succeed, the log is that of the abstract run to the letter. -/
theorem clean_run_reaches (admitted : Request → Prop) (count : Nat)
    (honours : Honours bios disk) (entered : Start.Entry entry)
    (running : ∀ position < count, (phaseAt disk position).Running)
    (succeeds : ∀ log machine, machine.isRead → admitted machine.request →
      (bios.disk log machine).carry = false)
    (reads : ∀ position < count, ∀ read ∈ (phaseAt disk position).reads, admitted read.2) :
    Reaches (step code bios) (Good 0x7bf0 (.reading admitted)) entry (fun later =>
      ∃ ax dx, Simulates disk entry.machine.memory
        (stateAt disk (Start.startLog ax dx) count) later ∧
        later.log = (stateAt disk (Start.startLog ax dx) count).log) := by
  have serves : ∀ request, admitted request → Serves bios (fun _ => 0) request :=
    fun request member => serves_of_success
      (fun log machine reads same => succeeds log machine reads (same ▸ member))
  have runs : Runs (step code bios) True (Good 0x7bf0 (.reading admitted)) entry _ :=
    run_reaches (fun _ => 0) count honours entered running
      (fun position bound => permits_reads (reads position bound))
      (fun _ position bound read listed => serves _ (reads position bound read listed))
  have preserved : ∀ config, Good 0x7bf0 (.reading admitted) config →
      settled config.log = config.log →
        settled (step code bios config).log = (step code bios config).log := by
    intro config good before
    refine settled_step succeeds ?_ before
    intro instr next fetched request asked
    exact (((good.safe _ good.1).2 instr next fetched).2.2.1 request asked).1
  have kept := (runs.reaches trivial).keep preserved (by rw [entered.log]; rfl)
  refine kept.mono (fun _ => id) ?_
  rintro later ⟨clean, ax, dx, sim⟩
  exact ⟨ax, dx, sim, by rw [← clean, sim.log]⟩

/-- Where no phase is the last, the run never leaves the boot sector's code. -/
theorem run_endless (honours : Honours bios disk) (entered : Start.Entry entry)
    (running : ∀ position, (phaseAt disk position).Running)
    (permits : ∀ position, Permits allowed (phaseAt disk position)) :
    Forever (step code bios) (Good 0x7bf0 allowed) entry := by
  have starts : Runs (step code bios) False (Good 0x7bf0 allowed) entry (Reached disk entry 0) :=
    start_reached honours entered
  apply starts.forever
  intro later reached
  have advances : ∀ position config, Reached disk entry position config →
      Advances (step code bios) False (Good 0x7bf0 allowed) config
        (Reached disk entry (position + 1)) :=
    fun position _ reached => next_reached (fun _ => 0) honours (running position)
      (permits position) False.elim reached
  exact Forever.of_stages (Reached disk entry) advances reached

/-- What holds at every good state, and from every last phase on, holds at every
state of every run. -/
theorem run_forever {during : Config → Prop} (honours : Honours bios disk)
    (entered : Start.Entry entry) (permits : ∀ position, Permits allowed (phaseAt disk position))
    (good : ∀ config, Good 0x7bf0 allowed config → during config)
    (stopped : ∀ position config, ¬(phaseAt disk position).Running →
      Reached disk entry position config → Forever (step code bios) during config) :
    Forever (step code bios) during entry := by
  by_cases running : ∀ position, (phaseAt disk position).Running
  · exact (run_endless honours entered running permits).mono good
  · have stops : ∃ position, ¬(phaseAt disk position).Running := not_forall.mp running
    have runs : Runs (step code bios) False (Good 0x7bf0 allowed) entry _ :=
      run_reaches (fun _ => 0) (Nat.find stops) honours entered
        (fun position earlier => not_not.mp (Nat.find_min stops earlier))
        (fun position _ => permits position) False.elim
    exact (runs.mono good (fun _ => id)).forever (stopped _ · (Nat.find_spec stops))

/-- Every state of every run is safe, whatever the disk holds and however its
reads go. -/
theorem run_safe (honours : Honours bios disk) (entered : Start.Entry entry)
    (permits : ∀ position, Permits allowed (phaseAt disk position)) :
    Forever (step code bios) (Safe 0x7bf0 allowed) entry := by
  refine run_forever honours entered permits Good.safe ?_
  rintro position config stopped ⟨ax, dx, sim⟩
  exact stopped_safe sim stopped

theorem run_sound (honours : Honours bios disk) (entered : Start.Entry entry)
    (permits : ∀ position, Permits allowed (phaseAt disk position))
    (sound : ∀ position, phaseAt disk position ≠ .faulted) :
    Forever (step code bios) (Sound 0x7bf0 allowed) entry := by
  refine run_forever honours entered permits Good.sound ?_
  rintro position config stopped ⟨ax, dx, sim⟩
  exact stopped_sound sim stopped (sound position)

end WholeRuns

end BootSector.Refinement
