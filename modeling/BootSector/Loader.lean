import BootSector.LoadFile

/-!
# The loader as a state machine

What the boot sector is for, free of registers and stack: it scans the root
directory, then follows one file's clusters through FAT1. A phase says which
reads it issues, and memory is the replay of the reads on the disk image.
-/

namespace BootSector.Loader

open RealMode Bios Floppy Search LoadFile GetFATEntry

inductive Phase where
  /-- `sector` sectors of the root directory are behind. -/
  | scanning (sector : Nat)
  /-- Directory entry `entry` has the loader's name. -/
  | found (entry : Nat)
  /-- `count` clusters are loaded and `cluster` is next. -/
  | loading (cluster count : Nat)
  | loaded (count : Nat)
  | missing
  | faulted
  deriving DecidableEq, Repr

namespace Phase

def Running : Phase → Prop
  | scanning _ | found _ | loading _ _ => True
  | loaded _ | missing | faulted => False

instance : DecidablePred Running := fun phase => by
  cases phase <;> simp only [Running] <;> infer_instance

/-- Division bounds the clusters that can be followed, and FFFh alone ends
the chain. -/
def next (disk : Disk) : Phase → Phase
  | scanning sector =>
      if sector = 14 then missing
      else match loaderSlot disk sector with
        | some slot => found (16 * sector + slot)
        | none => scanning (sector + 1)
  | found entry => loading (firstCluster disk entry) 0
  | loading cluster count =>
      if 4577 ≤ cluster then faulted
      else if Fat12.entry (fat1 disk) cluster = 0xfff then loaded count
      else loading (Fat12.entry (fat1 disk) cluster) (count + 1)
  | other => other

/-- What a phase asks of the BIOS, attempts that fail left out. -/
def events : Phase → Log
  | scanning sector =>
      if sector = 14 then [] else [.read (rootCall sector) (rootRequest sector) false]
  | loading cluster count =>
      dotEvent count ::
        ((if dataSector cluster < 4608 then
            [.read (dataCall cluster) (dataRequest cluster count) false] else []) ++
          if cluster < 4577 then [.read (fatCall cluster) (fatRequest cluster) false] else [])
  | _ => []

def reads (phase : Phase) : List (Call × Request) := completed phase.events

theorem reads_cases {phase : Phase} {read : Call × Request} (listed : read ∈ phase.reads) :
    (∃ sector, phase = scanning sector ∧ sector ≠ 14 ∧
      read = (rootCall sector, rootRequest sector)) ∨
    (∃ cluster count, phase = loading cluster count ∧ dataSector cluster < 4608 ∧
      read = (dataCall cluster, dataRequest cluster count)) ∨
    (∃ cluster count, phase = loading cluster count ∧ cluster < 4577 ∧
      read = (fatCall cluster, fatRequest cluster)) := by
  cases phase with
  | scanning sector =>
      by_cases past : sector = 14
      · simp [reads, events, past, completed] at listed
      · refine .inl ⟨sector, rfl, past, ?_⟩
        simpa [reads, events, past, completed] using listed
  | loading cluster count =>
      refine .inr ?_
      by_cases sector : dataSector cluster < 4608 <;> by_cases small : cluster < 4577 <;>
        simp [reads, events, completed, dotEvent, sector, small] at listed
      · exact listed.imp (fun same => ⟨cluster, count, rfl, sector, same⟩)
          (fun same => ⟨cluster, count, rfl, small, same⟩)
      · exact .inl ⟨cluster, count, rfl, sector, listed⟩
      · exact .inr ⟨cluster, count, rfl, small, listed⟩
  | found entry => simp [reads, events, completed] at listed
  | loaded count => simp [reads, events, completed] at listed
  | missing => simp [reads, events, completed] at listed
  | faulted => simp [reads, events, completed] at listed

theorem events_succeed (phase : Phase) (call : Call) (request : Request) :
    .read call request true ∉ phase.events := by
  cases phase with
  | scanning sector =>
      simp only [events]
      split_ifs <;> simp
  | loading cluster count =>
      simp only [events]
      split_ifs <;> simp [dotEvent]
  | found entry => simp [events]
  | loaded count => simp [events]
  | missing => simp [events]
  | faulted => simp [events]

theorem ending_cases {phase : Phase} (stopped : ¬phase.Running) (sound : phase ≠ faulted) :
    (∃ count, phase = loaded count) ∨ phase = missing := by
  cases phase with
  | scanning sector => exact (stopped trivial).elim
  | found entry => exact (stopped trivial).elim
  | loading cluster count => exact (stopped trivial).elim
  | loaded count => exact .inl ⟨count, rfl⟩
  | missing => exact .inr rfl
  | faulted => exact (sound rfl).elim

def Valid (disk : Disk) : Phase → Prop
  | scanning sector => sector ≤ 14 ∧ ∀ earlier < 16 * sector, ¬Named disk earlier
  | found entry => FirstLoader disk entry
  | loading cluster count => ∃ entry, FirstLoader disk entry ∧
      cluster = fileCluster disk entry count ∧
      ∀ earlier < count, fileCluster disk entry (earlier + 1) ≠ 0xfff
  | loaded count => ∃ entry, FirstLoader disk entry ∧
      fileCluster disk entry (count + 1) = 0xfff ∧
      ∀ earlier < count, fileCluster disk entry (earlier + 1) ≠ 0xfff
  | missing => ∀ entry < 224, ¬Named disk entry
  | faulted => ∃ entry, FirstLoader disk entry ∧ 4577 ≤ firstCluster disk entry

theorem Valid.scanned {disk : Disk} {sector : Nat} (valid : (scanning sector).Valid disk) :
    ((scanning sector).next disk).Valid disk := by
  obtain ⟨within, unnamed⟩ := valid
  simp only [next]
  split_ifs with past
  · subst past
    exact unnamed
  · cases slotted : loaderSlot disk sector with
    | none =>
        refine ⟨by omega, fun earlier less => ?_⟩
        rcases Nat.lt_or_ge earlier (16 * sector) with before | here
        · exact unnamed earlier before
        · have slot := loader_slot_eq_none.mp slotted (earlier - 16 * sector) (by omega)
          rwa [Nat.add_sub_cancel' here] at slot
    | some slot =>
        obtain ⟨named, bound, first⟩ := loader_slot_eq_some.mp slotted
        refine ⟨by omega, named, fun earlier less => ?_⟩
        rcases Nat.lt_or_ge earlier (16 * sector) with before | here
        · exact unnamed earlier before
        · have slot := first (earlier - 16 * sector) (by omega)
          rwa [Nat.add_sub_cancel' here] at slot

theorem Valid.turned {disk : Disk} {cluster count : Nat}
    (valid : (loading cluster count).Valid disk) :
    ((loading cluster count).next disk).Valid disk := by
  obtain ⟨entry, found, rfl, more⟩ := valid
  simp only [next, ← file_cluster_succ]
  split_ifs with large last
  · refine ⟨entry, found, ?_⟩
    by_contra small
    have bound := file_cluster_small (Nat.lt_of_not_le small) count
    omega
  · exact ⟨entry, found, last, more⟩
  · refine ⟨entry, found, rfl, fun earlier less => ?_⟩
    rcases Nat.lt_succ_iff_lt_or_eq.mp less with before | rfl
    · exact more earlier before
    · exact last

theorem Valid.next_valid {disk : Disk} {phase : Phase} (valid : phase.Valid disk) :
    (phase.next disk).Valid disk := by
  cases phase with
  | scanning sector => exact valid.scanned
  | found entry => exact ⟨entry, valid, rfl, fun _ less => absurd less (Nat.not_lt_zero _)⟩
  | loading cluster count => exact valid.turned
  | loaded count => exact valid
  | missing => exact valid
  | faulted => exact valid

end Phase

structure State where
  phase : Phase
  log : Log

def State.next (disk : Disk) (state : State) : State where
  phase := state.phase.next disk
  log := state.log ++ state.phase.events

def replay (disk : Disk) (memory : Memory) (reads : List (Call × Request)) : Memory :=
  reads.foldl (fun memory read => deliver disk read.2 memory) memory

@[simp] theorem replay_nil (disk : Disk) (memory : Memory) : replay disk memory [] = memory := rfl

theorem replay_append (disk : Disk) (memory : Memory) (first second : List (Call × Request)) :
    replay disk memory (first ++ second) = replay disk (replay disk memory first) second :=
  List.foldl_append

@[simp] theorem replay_cons (disk : Disk) (memory : Memory) (read : Call × Request)
    (rest : List (Call × Request)) :
    replay disk memory (read :: rest) = replay disk (deliver disk read.2 memory) rest := rfl

/-- The phase after `position` transitions, counted from the start of the search. -/
def phaseAt (disk : Disk) (position : Nat) : Phase :=
  (Phase.next disk)^[position] (.scanning 0)

theorem phase_at_succ (disk : Disk) (position : Nat) :
    phaseAt disk (position + 1) = (phaseAt disk position).next disk :=
  Function.iterate_succ_apply' ..

theorem phase_at_valid (disk : Disk) (position : Nat) : (phaseAt disk position).Valid disk := by
  induction position with
  | zero => exact ⟨Nat.zero_le 14, fun _ less => absurd less (Nat.not_lt_zero _)⟩
  | succ position ih =>
      rw [phase_at_succ]
      exact ih.next_valid

def stateAt (disk : Disk) (log : Log) (position : Nat) : State where
  phase := phaseAt disk position
  log := log ++ (List.range position).flatMap fun earlier => (phaseAt disk earlier).events

theorem state_at_succ (disk : Disk) (log : Log) (position : Nat) :
    stateAt disk log (position + 1) = (stateAt disk log position).next disk := by
  rw [stateAt, stateAt, State.next, phase_at_succ, List.range_succ, List.flatMap_append,
    List.flatMap_singleton, List.append_assoc]

section Paths

variable {disk : Disk} {entry : Nat}

theorem scanning_phase {sector : Nat} (within : sector ≤ 14)
    (unnamed : ∀ earlier < 16 * sector, ¬Named disk earlier) :
    phaseAt disk sector = .scanning sector := by
  induction sector with
  | zero => rfl
  | succ sector ih =>
      have slots : loaderSlot disk sector = none :=
        loader_slot_eq_none.mpr (fun slot bound => unnamed _ (by omega))
      rw [phase_at_succ, ih (by omega) (fun earlier less => unnamed earlier (by omega)), Phase.next,
        if_neg (by omega), slots]

theorem missing_phase (unnamed : ∀ entry < 224, ¬Named disk entry) :
    phaseAt disk 15 = .missing := by
  rw [phase_at_succ, scanning_phase (le_refl 14) unnamed, Phase.next, if_pos rfl]

theorem searching_phase (found : FirstLoader disk entry) {sector : Nat}
    (early : sector ≤ entry / 16) :
    phaseAt disk sector = .scanning sector := by
  have bound := found.bound
  exact scanning_phase (by omega) (fun earlier less => found.first earlier (by omega))

theorem found_phase (found : FirstLoader disk entry) :
    phaseAt disk (entry / 16 + 1) = .found entry := by
  have bound := found.bound
  have whole : 16 * (entry / 16) + entry % 16 = entry := by omega
  have slotted : loaderSlot disk (entry / 16) = some (entry % 16) := by
    refine loader_slot_eq_some.mpr ⟨whole.symm ▸ found.named, by omega, ?_⟩
    exact fun earlier less => found.first _ (by omega)
  rw [phase_at_succ, searching_phase found (le_refl _), Phase.next, if_neg (by omega), slotted]
  simp only [whole]

theorem first_phase (found : FirstLoader disk entry) :
    phaseAt disk (entry / 16 + 2) = .loading (firstCluster disk entry) 0 := by
  rw [phase_at_succ, found_phase found]
  rfl

theorem search_cases (found : FirstLoader disk entry) {position : Nat}
    (bound : position < entry / 16 + 2) :
    (∃ sector ≤ entry / 16, phaseAt disk position = .scanning sector) ∨
      phaseAt disk position = .found entry := by
  rcases Nat.lt_or_ge position (entry / 16 + 1) with early | late
  · exact .inl ⟨position, by omega, searching_phase found (by omega)⟩
  · have same : position = entry / 16 + 1 := by omega
    exact .inr (same ▸ found_phase found)

theorem search_running (found : FirstLoader disk entry) {position : Nat}
    (bound : position < entry / 16 + 2) : (phaseAt disk position).Running := by
  rcases search_cases found bound with ⟨sector, _, same⟩ | same <;> rw [same] <;> trivial

theorem scan_reads {sector : Nat} (within : sector < 14) :
    ∀ read ∈ (Phase.scanning sector).reads, read.2.OnDisk ∧ read.2.count = 1 := by
  intro read listed
  rcases Phase.reads_cases listed with ⟨other, same, _, rfl⟩ | ⟨_, _, same, _⟩ |
    ⟨_, _, same, _⟩ <;> cases same
  exact ⟨root_request_on_disk within, rfl⟩

theorem search_reads (found : FirstLoader disk entry) {position : Nat}
    (bound : position < entry / 16 + 2) :
    ∀ read ∈ (phaseAt disk position).reads, read.2.OnDisk ∧ read.2.count = 1 := by
  have within := found.bound
  rcases search_cases found bound with ⟨sector, early, same⟩ | same
  · rw [same]
    exact scan_reads (by omega)
  · intro read listed
    rw [same] at listed
    cases listed

/-- The loop takes the file's clusters in order until FFFh comes up. -/
theorem loading_phase (found : FirstLoader disk entry) (small : firstCluster disk entry < 4577)
    {count : Nat} (more : ∀ earlier < count, fileCluster disk entry (earlier + 1) ≠ 0xfff) :
    phaseAt disk (entry / 16 + 2 + count) = .loading (fileCluster disk entry count) count := by
  induction count with
  | zero => exact first_phase found
  | succ count ih =>
      have bound := file_cluster_small small count
      have differs : Fat12.entry (fat1 disk) (fileCluster disk entry count) ≠ 0xfff := by
        rw [← file_cluster_succ]
        exact more count (by omega)
      rw [← Nat.add_assoc, phase_at_succ, ih (fun earlier less => more earlier (by omega)),
        Phase.next, if_neg (by omega), if_neg differs, file_cluster_succ]

theorem loaded_phase (found : FirstLoader disk entry) (small : firstCluster disk entry < 4577)
    {count : Nat} (more : ∀ earlier < count, fileCluster disk entry (earlier + 1) ≠ 0xfff)
    (last : fileCluster disk entry (count + 1) = 0xfff) :
    phaseAt disk (entry / 16 + 2 + (count + 1)) = .loaded count := by
  have bound := file_cluster_small small count
  rw [file_cluster_succ] at last
  rw [← Nat.add_assoc, phase_at_succ, loading_phase found small more, Phase.next,
    if_neg (by omega), if_pos last]

theorem path_cases (found : FirstLoader disk entry) (small : firstCluster disk entry < 4577)
    {count : Nat} (more : ∀ earlier < count - 1, fileCluster disk entry (earlier + 1) ≠ 0xfff)
    {position : Nat} (bound : position < entry / 16 + 2 + count) :
    position < entry / 16 + 2 ∨
      ∃ turn < count, phaseAt disk position = .loading (fileCluster disk entry turn) turn := by
  rcases Nat.lt_or_ge position (entry / 16 + 2) with early | late
  · exact .inl early
  · obtain ⟨turn, rfl⟩ := Nat.exists_eq_add_of_le late
    exact .inr ⟨turn, by omega,
      loading_phase found small (fun earlier less => more earlier (by omega))⟩

theorem path_running (found : FirstLoader disk entry) (small : firstCluster disk entry < 4577)
    {count : Nat} (more : ∀ earlier < count - 1, fileCluster disk entry (earlier + 1) ≠ 0xfff)
    {position : Nat} (bound : position < entry / 16 + 2 + count) :
    (phaseAt disk position).Running := by
  rcases path_cases found small more bound with early | ⟨turn, _, same⟩
  · exact search_running found early
  · rw [same]
    trivial

theorem path_reads (found : FirstLoader disk entry) (small : firstCluster disk entry < 4577)
    {count : Nat} (more : ∀ earlier < count - 1, fileCluster disk entry (earlier + 1) ≠ 0xfff)
    (present : ∀ turn < count, fileCluster disk entry turn ≤ 2848) {position : Nat}
    (bound : position < entry / 16 + 2 + count) :
    ∀ read ∈ (phaseAt disk position).reads, read.2.OnDisk := by
  intro read listed
  rcases path_cases found small more bound with early | ⟨turn, inside, same⟩
  · exact (search_reads found early read listed).1
  · rw [same] at listed
    rcases Phase.reads_cases listed with ⟨_, other, _⟩ | ⟨cluster, count, other, _, rfl⟩ |
      ⟨cluster, count, other, _, rfl⟩ <;> cases other
    · have sector := present turn inside
      refine data_request_on_disk ?_
      simp only [dataSector]
      omega
    · exact fat_request_on_disk (file_cluster_small small turn)

end Paths

section Logs

variable {disk : Disk} {entry : Nat}

def searchLog (sectors : Nat) : Log :=
  (List.range sectors).map fun sector => .read (rootCall sector) (rootRequest sector) false

def turnLog (cluster count : Nat) : Log :=
  [dotEvent count, .read (dataCall cluster) (dataRequest cluster count) false,
    .read (fatCall cluster) (fatRequest cluster) false]

def loopLog (disk : Disk) (entry count : Nat) : Log :=
  (List.range count).flatMap fun position => turnLog (fileCluster disk entry position) position

theorem loop_log_succ (disk : Disk) (entry count : Nat) : loopLog disk entry (count + 1) =
    loopLog disk entry count ++ turnLog (fileCluster disk entry count) count := by
  rw [loopLog, List.range_succ, List.flatMap_append, List.flatMap_singleton, ← loopLog]

theorem turn_events {cluster : Nat} (small : cluster < 4577) (count : Nat) :
    (Phase.loading cluster count).events = turnLog cluster count := by
  have sector : dataSector cluster < 4608 := by
    simp only [dataSector]
    omega
  simp [Phase.events, turnLog, sector, small]

theorem scanning_log {sectors : Nat} (within : sectors ≤ 14)
    (unnamed : ∀ earlier < 16 * (sectors - 1), ¬Named disk earlier) (log : Log) :
    (stateAt disk log sectors).log = log ++ searchLog sectors := by
  simp only [stateAt, searchLog]
  congr 1
  rw [List.map_eq_flatMap]
  apply List.flatMap_congr
  intro sector listed
  have bound := List.mem_range.mp listed
  rw [scanning_phase (by omega) (fun earlier less => unnamed earlier (by omega)), Phase.events,
    if_neg (by omega)]

theorem found_log (found : FirstLoader disk entry) (log : Log) :
    (stateAt disk log (entry / 16 + 1)).log = log ++ searchLog (entry / 16 + 1) := by
  have bound := found.bound
  exact scanning_log (by omega) (fun earlier less => found.first earlier (by omega)) log

theorem missing_log (unnamed : ∀ entry < 224, ¬Named disk entry) (log : Log) :
    (stateAt disk log 15).log = log ++ searchLog 14 := by
  rw [state_at_succ, State.next,
    scanning_log (le_refl 14) (fun earlier less => unnamed earlier (by omega)), stateAt,
    scanning_phase (le_refl 14) unnamed, Phase.events, if_pos rfl, List.append_nil]

theorem loading_log (found : FirstLoader disk entry) (small : firstCluster disk entry < 4577)
    {count : Nat} (more : ∀ earlier < count - 1, fileCluster disk entry (earlier + 1) ≠ 0xfff)
    (log : Log) :
    (stateAt disk log (entry / 16 + 2 + count)).log =
      log ++ searchLog (entry / 16 + 1) ++ loopLog disk entry count := by
  induction count with
  | zero =>
      rw [Nat.add_zero, state_at_succ, State.next, found_log found, stateAt, found_phase found]
      simp [Phase.events, loopLog]
  | succ count ih =>
      rw [← Nat.add_assoc, state_at_succ, State.next,
        ih (fun earlier less => more earlier (by omega)), loop_log_succ, stateAt,
        loading_phase found small (fun earlier less => more earlier (by omega)),
        turn_events (file_cluster_small small count), ← List.append_assoc]

end Logs

end BootSector.Loader
