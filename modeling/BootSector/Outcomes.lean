import BootSector.EndMarks
import BootSector.RootSearch
import BootSector.Screen
import Mathlib.Order.Interval.Finset.Nat

/-!
# How a boot turns out

Every disk image boots in one of five ways, and the root directory and FAT1 say
in which: no loader, a divide error, the loader entered, one sector asked for
without end, or a chain followed round and round.
-/

namespace BootSector.Outcomes

open RealMode Bios Program Floppy Execution Assertion Loader Refinement LoadFile FileLoading
  EndMarks

inductive Outcome where
  | missing
  | divideError
  /-- The loader has `length` clusters. -/
  | loaded (length : Nat)
  /-- The sector of the cluster after `position` of them does not exist. -/
  | stalled (position : Nat)
  | looping
  deriving DecidableEq, Repr

variable {bios bios' : Services} {disk disk' : Disk} {entry entry' config : Config}
  {file turns position : Nat}

section Predictions

/-- The first cluster of the chain that has no sector on the disk; a chain that
comes so far without one has turned back on itself. -/
def leaving (disk : Disk) (file : Nat) : Option Nat :=
  (List.range 2850).find? fun position => 2848 < fileCluster disk file position

/-- FFFh in the directory entry is not taken for an end mark. -/
def fileOutcome (disk : Disk) (file : Nat) : Outcome :=
  if 4577 ≤ firstCluster disk file then .divideError
  else match leaving disk file with
    | none => .looping
    | some position =>
        if position ≠ 0 ∧ fileCluster disk file position = 0xfff then .loaded position
        else .stalled position

def bootOutcome (disk : Disk) : Outcome :=
  match (List.range 224).find? fun entry => Named disk entry with
  | none => .missing
  | some file => fileOutcome disk file

theorem leaving_eq_some : leaving disk file = some position ↔
    2848 < fileCluster disk file position ∧ position < 2850 ∧
      ∀ earlier < position, fileCluster disk file earlier ≤ 2848 := by
  simp only [leaving, List.find?_range_eq_some, decide_eq_true_eq, List.mem_range,
    Bool.not_eq_true', decide_eq_false_iff_not, Nat.not_lt]

/-- A chain that stays on the disk for 2850 clusters never leaves it. -/
theorem inside_of_leaving_none (inside : leaving disk file = none) (position : Nat) :
    fileCluster disk file position ≤ 2848 := by
  have early : ∀ position < 2850, fileCluster disk file position ≤ 2848 := by
    simpa only [leaving, List.find?_range_eq_none, Bool.not_eq_true', decide_eq_false_iff_not,
      Nat.not_lt] using inside
  have walk : fileCluster disk file position ∈ Finset.range 2849 := by
    refine Chain.inside_of_long (Finset.range 2849) (fun earlier within => ?_) position
    rw [Finset.card_range] at within
    exact Finset.mem_range.mpr (Nat.lt_succ_of_le (early earlier (by omega)))
  exact Nat.lt_succ_iff.mp (Finset.mem_range.mp walk)

theorem find_loader_eq_some : (List.range 224).find? (fun entry => Named disk entry) = some file ↔
    FirstLoader disk file := by
  simp only [List.find?_range_eq_some, decide_eq_true_eq, List.mem_range, Bool.not_eq_true',
    decide_eq_false_iff_not]
  exact ⟨fun ⟨named, bound, first⟩ => ⟨bound, named, first⟩,
    fun ⟨bound, named, first⟩ => ⟨named, bound, first⟩⟩

theorem find_loader_eq_none : (List.range 224).find? (fun entry => Named disk entry) = none ↔
    ∀ entry < 224, ¬Named disk entry := by
  simp only [List.find?_range_eq_none, decide_eq_false_iff_not, Bool.not_eq_true']

theorem outcome_of_missing (unnamed : ∀ entry < 224, ¬Named disk entry) :
    bootOutcome disk = .missing := by
  rw [bootOutcome, find_loader_eq_none.mpr unnamed]

theorem outcome_of_found (found : FirstLoader disk file) :
    bootOutcome disk = fileOutcome disk file := by
  rw [bootOutcome, find_loader_eq_some.mpr found]

def Outcome.Passes : Outcome → Nat → Prop
  | .loaded length, earlier => earlier < length
  | .stalled position, earlier => earlier < position
  | .looping, _ => True
  | .missing, _ | .divideError, _ => False

theorem passes_inside (found : FirstLoader disk file) {earlier : Nat}
    (passes : (bootOutcome disk).Passes earlier) : fileCluster disk file earlier ≤ 2848 := by
  rw [outcome_of_found found, fileOutcome] at passes
  split_ifs at passes with large
  · exact passes.elim
  · cases left : leaving disk file with
    | none => exact inside_of_leaving_none left earlier
    | some position =>
        obtain ⟨-, -, inside⟩ := leaving_eq_some.mp left
        simp only [left] at passes
        split_ifs at passes
        · exact inside earlier passes
        · exact inside earlier passes

end Predictions

section Logs

def bootLog (disk : Disk) (file turns : Nat) (ax dx : Word) : Log :=
  Start.startLog ax dx ++ searchLog (file / 16 + 1) ++ loopLog disk file turns

theorem settled_search_log (sectors : Nat) : settled (searchLog sectors) = searchLog sectors := by
  rw [settled, List.filter_eq_self]
  intro event listed
  obtain ⟨sector, -, rfl⟩ := List.mem_map.mp listed
  rfl

theorem settled_loop_log (disk : Disk) (file turns : Nat) :
    settled (loopLog disk file turns) = loopLog disk file turns := by
  rw [settled, List.filter_eq_self]
  intro event listed
  obtain ⟨position, -, member⟩ := List.mem_flatMap.mp listed
  simp only [turnLog, List.mem_cons, List.not_mem_nil, or_false] at member
  rcases member with rfl | rfl | rfl <;> rfl

theorem settled_boot_log (disk : Disk) (file turns : Nat) (ax dx : Word) :
    settled (bootLog disk file turns ax dx) = bootLog disk file turns ax dx := by
  rw [bootLog, settled_append, settled_append, settled_search_log, settled_loop_log]
  rfl

theorem first_log (found : FirstLoader disk file) (ax dx : Word) :
    (stateAt disk (Start.startLog ax dx) (file / 16 + 2)).log = bootLog disk file 0 ax dx := by
  rw [state_at_succ, State.next, found_log found, stateAt, found_phase found, bootLog, loopLog]
  rfl

theorem loop_log_length (disk : Disk) (file turns : Nat) :
    (loopLog disk file turns).length = 3 * turns := by
  induction turns with
  | zero => rfl
  | succ turns ih =>
      rw [loop_log_succ, List.length_append, ih, turnLog]
      rfl

theorem boot_log_length (disk : Disk) (file turns : Nat) (ax dx : Word) :
    (bootLog disk file turns ax dx).length = file / 16 + 5 + 3 * turns := by
  simp only [bootLog, Start.startLog, searchLog, List.length_append, List.length_map,
    List.length_range, loop_log_length, List.length_cons, List.length_nil]
  omega

end Logs

section Realising

def RestsIn (bios : Services) (entry : Config) (final : Config → Prop) : Prop :=
  ∃ count, step code bios ((step code bios)^[count] entry) = (step code bios)^[count] entry ∧
    final ((step code bios)^[count] entry)

def refusedRead (disk : Disk) (file position : Nat) : Event :=
  .read (dataCall (fileCluster disk file position))
    (dataRequest (fileCluster disk file position) position) true

/-- From `count` steps on nothing is logged but one read that fails, and that
without end. -/
structure Stalls (bios : Services) (disk : Disk) (entry : Config) (file position count : Nat) :
    Prop where
  found : FirstLoader disk file
  beyond : 2848 < fileCluster disk file position
  log : ∃ ax dx, settled ((step code bios)^[count] entry).log =
    bootLog disk file position ax dx ++ [dotEvent position]
  only : ∀ later, ∃ attempts, ((step code bios)^[later + count] entry).log =
    ((step code bios)^[count] entry).log ++
      List.replicate attempts (refusedRead disk file position)
  endless : ∀ attempts, ∃ later, ((step code bios)^[later + count] entry).log =
    ((step code bios)^[count] entry).log ++
      List.replicate attempts (refusedRead disk file position)

def Rested (disk : Disk) : Outcome → Config → Prop
  | .missing, config =>
      config.fault = false ∧ config.machine.cs = 0#16 ∧ config.machine.ip = endlessJump ∧
        (∀ file < 224, ¬Named disk file) ∧
        ∃ ax dx, config.log =
          Start.startLog ax dx ++ searchLog 14 ++ [.video 0x1301#16 0x008c#16]
  | .divideError, config =>
      config.fault = true ∧ ∃ file ax dx, FirstLoader disk file ∧
        4577 ≤ firstCluster disk file ∧ config.log =
          bootLog disk file 0 ax dx ++ (Phase.loading (firstCluster disk file) 0).events
  | .loaded length, config =>
      config.fault = false ∧ InLoader config ∧ ∃ file ax dx, FirstLoader disk file ∧
        config.log = bootLog disk file length ax dx
  | .stalled _, _ | .looping, _ => False

/-- What the outcomes mean of a run. -/
def Realises (bios : Services) (disk : Disk) (entry : Config) : Outcome → Prop
  | .stalled position => ∃ file count, Stalls bios disk entry file position count
  | .looping => ∃ file, FirstLoader disk file ∧ ∀ turns, ∃ count ax dx,
      ((step code bios)^[count] entry).log = bootLog disk file turns ax dx
  | resting => RestsIn bios entry (Rested disk resting)

/-- A run logs an event a step at most. -/
theorem run_log (bios : Services) (config : Config) (count : Nat) :
    ∃ events, ((step code bios)^[count] config).log = config.log ++ events ∧
      events.length ≤ count := by
  induction count with
  | zero => exact ⟨[], (List.append_nil _).symm, le_refl 0⟩
  | succ count ih =>
      obtain ⟨events, log, length⟩ := ih
      obtain ⟨more, grown, short⟩ := step_log code bios ((step code bios)^[count] config)
      refine ⟨events ++ more, ?_, ?_⟩
      · rw [Function.iterate_succ_apply', grown, log, List.append_assoc]
      · rw [List.length_append]
        omega

theorem rests_of_reaches {final : Config → Prop}
    (reaches : Reaches (step code bios) (fun _ => True) entry fun config =>
      step code bios config = config ∧ final config) : RestsIn bios entry final :=
  reaches.exists_iterate

theorem RestsIn.mono {final final' : Config → Prop} (rests : RestsIn bios entry final)
    (weaker : ∀ config, final config → final' config) : RestsIn bios entry final' := by
  obtain ⟨count, fixed, there⟩ := rests
  exact ⟨count, fixed, weaker _ there⟩

theorem missing_realised (conforms : Conforms bios disk) (entered : Start.Entry entry)
    (unnamed : ∀ file < 224, ¬Named disk file) : Realises bios disk entry .missing := by
  have single := RootSearch.single_reads_succeed conforms.succeeds
  have missing := RootSearch.missing_reached conforms.honours single entered unnamed
  apply rests_of_reaches
  refine (missing.mono (fun _ _ => trivial) (fun _ => id)).bind ?_
  rintro config ⟨atMissing, ax, dx, log⟩
  have halts : Reaches (step code bios) (Sound 0x7bfe .any) config (Finish.Halted bios config) :=
    Finish.missing_halts (le_refl 0x7bfe) atMissing
  refine halts.mono (fun _ _ => trivial) ?_
  intro later halted
  exact ⟨halted.fixed, halted.fault, halted.cs, halted.ip, unnamed, ax, dx, by rw [halted.log, log]⟩

theorem divide_error_realised (conforms : Conforms bios disk) (entered : Start.Entry entry)
    (found : FirstLoader disk file) (large : 4577 ≤ firstCluster disk file) :
    Realises bios disk entry .divideError := by
  have phase := first_phase found
  have running : ∀ position < file / 16 + 2 + 1, (phaseAt disk position).Running := by
    intro position bound
    rcases Nat.lt_succ_iff_lt_or_eq.mp bound with before | rfl
    · exact search_running found before
    · rw [phase]
      trivial
  have present : ∀ position < file / 16 + 2 + 1, ∀ read ∈ (phaseAt disk position).reads,
      read.2.OnDisk := by
    intro position bound read listed
    rcases Nat.lt_succ_iff_lt_or_eq.mp bound with before | rfl
    · exact (search_reads found before read listed).1
    · rw [phase] at listed
      have word := file_cluster_word disk file 0
      rcases Phase.reads_cases listed with ⟨_, other, _⟩ | ⟨cluster, count, same, sector, rfl⟩ |
        ⟨cluster, count, same, small, rfl⟩
      · cases other
      · cases same
        refine data_request_on_disk ?_
        simp only [dataSector, fileCluster, Function.iterate_zero, id_eq] at sector word ⊢
        omega
      · cases same
        omega
  have reaches := clean_run_reaches Request.OnDisk _ conforms.honours entered running
    conforms.succeeds present
  apply rests_of_reaches
  refine (reaches.mono (fun _ _ => trivial) (fun _ => id)).bind ?_
  rintro config ⟨ax, dx, sim, log⟩
  have faulted : phaseAt disk (file / 16 + 2 + 1) = .faulted := by
    rw [phase_at_succ, phase, Phase.next, if_pos large]
  have stops : step code bios config = _ := Finish.fault_stops (sim.place_at faulted)
  have logged : config.log = bootLog disk file 0 ax dx ++
      (Phase.loading (firstCluster disk file) 0).events := by
    rw [log, state_at_succ, State.next, first_log found, stateAt, phase]
  refine .next trivial (.here ?_)
  rw [stops]
  exact ⟨step_faulted rfl, rfl, file, ax, dx, found, large, logged⟩

theorem turns_reached (conforms : Conforms bios disk) (entered : Start.Entry entry)
    (found : FirstLoader disk file) (small : firstCluster disk file < 4577)
    (inside : ∀ earlier < turns, fileCluster disk file earlier ≤ 2848) :
    Reaches (step code bios) (fun _ => True) entry (fun config => ∃ ax dx,
      Simulates disk entry.machine.memory
        (stateAt disk (Start.startLog ax dx) (file / 16 + 2 + turns)) config ∧
        config.log = bootLog disk file turns ax dx) := by
  have more : ∀ earlier < turns - 1, fileCluster disk file (earlier + 1) ≠ 0xfff := by
    intro earlier less
    have bound := inside (earlier + 1) (by omega)
    omega
  refine (path_reached conforms.honours conforms.succeeds entered found small more inside).mono
    (fun _ _ => trivial) ?_
  rintro config ⟨ax, dx, sim, log⟩
  exact ⟨ax, dx, sim, log.trans (loading_log found small more _)⟩

theorem loaded_realised (conforms : Conforms bios disk) (entered : Start.Entry entry)
    (found : FirstLoader disk file) (small : firstCluster disk file < 4577)
    (positive : position ≠ 0) (last : fileCluster disk file position = 0xfff)
    (inside : ∀ earlier < position, fileCluster disk file earlier ≤ 2848) :
    Realises bios disk entry (.loaded position) := by
  obtain ⟨before, rfl⟩ := Nat.exists_eq_succ_of_ne_zero positive
  have more : ∀ earlier < before, fileCluster disk file (earlier + 1) ≠ 0xfff := by
    intro earlier less
    have bound := inside (earlier + 1) (by omega)
    omega
  apply rests_of_reaches
  refine (turns_reached conforms entered found small inside).bind ?_
  rintro config ⟨ax, dx, sim, log⟩
  have atEnd : AtEnd before config := sim.place_at (loaded_phase found small more last)
  have jumped : Finish.Jumped config (step code bios config) :=
    Finish.far_jump atEnd.ready.fault atEnd.ready.cs atEnd.ip
  refine .next trivial (.here ⟨?_, jumped.fault, ⟨jumped.cs, jumped.ip⟩, file, ax, dx, found, ?_⟩)
  · exact stays_in_loader ⟨jumped.cs, jumped.ip⟩ 1
  · rw [jumped.log, log]

theorem looping_realised (conforms : Conforms bios disk) (entered : Start.Entry entry)
    (found : FirstLoader disk file) (inside : ∀ position, fileCluster disk file position ≤ 2848) :
    Realises bios disk entry .looping := by
  have small : firstCluster disk file ≤ 2848 := inside 0
  refine ⟨file, found, fun turns => ?_⟩
  obtain ⟨count, ax, dx, -, log⟩ := (turns_reached conforms entered found (by omega)
    (fun earlier (_ : earlier < turns) => inside earlier)).exists_iterate
  exact ⟨count, ax, dx, log⟩

theorem grows_only {event : Event}
    (endless : ∀ attempts, ∃ later, ((step code bios)^[later] config).log =
      config.log ++ List.replicate attempts event) (later : Nat) :
    ∃ attempts, ((step code bios)^[later] config).log =
      config.log ++ List.replicate attempts event := by
  obtain ⟨final, log⟩ := endless later
  have within : later ≤ final := by
    obtain ⟨events, grown, short⟩ := run_log bios config final
    have same : List.replicate later event = events :=
      List.append_cancel_left (log.symm.trans grown)
    rw [← same, List.length_replicate] at short
    exact short
  obtain ⟨events, grown, -⟩ := run_log bios config later
  obtain ⟨rest, ending, -⟩ := run_log bios ((step code bios)^[later] config) (final - later)
  rw [← Function.iterate_add_apply, Nat.sub_add_cancel within, log, grown,
    List.append_assoc] at ending
  have split : List.replicate later event = events ++ rest := List.append_cancel_left ending
  have same : events = List.replicate events.length event :=
    (List.append_eq_replicate_iff.mp split.symm).2.1
  exact ⟨events.length, by rw [grown, ← same]⟩

theorem stalled_realised (conforms : Conforms bios disk) (entered : Start.Entry entry)
    (found : FirstLoader disk file) (small : firstCluster disk file < 4577)
    (beyond : 2848 < fileCluster disk file position)
    (unknown : position = 0 ∨ fileCluster disk file position ≠ 0xfff)
    (inside : ∀ earlier < position, fileCluster disk file earlier ≤ 2848) :
    Realises bios disk entry (.stalled position) := by
  have bound := file_cluster_small small position
  have more : ∀ earlier < position, fileCluster disk file (earlier + 1) ≠ 0xfff := by
    intro earlier less
    rcases Nat.lt_or_ge (earlier + 1) position with before | last
    · have within := inside (earlier + 1) before
      omega
    · have same : earlier + 1 = position := by omega
      rw [same]
      exact unknown.resolve_left (by omega)
  have sector : dataSector (fileCluster disk file position) =
      fileCluster disk file position + 31 := by
    simp only [dataSector]
    omega
  have refused : ∀ log machine, machine.isRead →
      machine.request = dataRequest (fileCluster disk file position) position →
        (bios.disk log machine).carry = true := by
    intro log machine reads same
    refine conforms.refuses log machine reads ?_
    rw [same]
    simp only [dataRequest, Request.ofLba, sector]
    omega
  obtain ⟨count, ax, dx, sim, log⟩ :=
    (turns_reached conforms entered found small inside).exists_iterate
  have atCluster := (sim.place_at (loading_phase found small more)).2
  have asks : Advances (step code bios) True (Good 0x7bf0 .any) _ _ :=
    reach_read conforms.honours (by decide) trivial atCluster
  obtain ⟨turning, dotted⟩ := (asks.runs.reaches trivial).exists_iterate
  have repeats : Reaches (step code bios) (Good 0x7bf0 .any) _ _ :=
    ReadOneSector.read_repeats conforms.honours (by rwa [dotted.asked])
      (dotted.called (by decide) (by omega)) trivial
  obtain ⟨waited, waiting, attempted⟩ := repeats.exists_iterate
  have place : (step code bios)^[waited + turning + count] entry =
      (step code bios)^[waited] ((step code bios)^[turning] ((step code bios)^[count] entry)) := by
    rw [Function.iterate_add_apply, Function.iterate_add_apply]
  rw [← place] at waiting attempted
  have endless : ∀ attempts, ∃ later, ((step code bios)^[later]
      ((step code bios)^[waited + turning + count] entry)).log =
        ((step code bios)^[waited + turning + count] entry).log ++
          List.replicate attempts (refusedRead disk file position) := by
    intro attempts
    obtain ⟨later, grown⟩ := (attempted attempts).exists_iterate
    rw [dotted.asked, dotted.call] at grown
    exact ⟨later, grown⟩
  refine ⟨file, waited + turning + count, found, beyond, ⟨ax, dx, ?_⟩, ?_, ?_⟩
  · rw [waiting.log, dotted.log, log, settled_append, settled_boot_log]
    rfl
  · intro later
    rw [Function.iterate_add_apply]
    exact grows_only endless later
  · intro attempts
    obtain ⟨later, grown⟩ := endless attempts
    exact ⟨later, by rwa [Function.iterate_add_apply]⟩

/-- The disk decides how the boot turns out, whatever the BIOS otherwise does. -/
theorem boot_realises (conforms : Conforms bios disk) (entered : Start.Entry entry) :
    Realises bios disk entry (bootOutcome disk) := by
  rcases first_loader_or_missing disk with ⟨file, found⟩ | missing
  · rw [outcome_of_found found, fileOutcome]
    split_ifs with large
    · exact divide_error_realised conforms entered found large
    · have small : firstCluster disk file < 4577 := Nat.lt_of_not_le large
      cases left : leaving disk file with
      | none => exact looping_realised conforms entered found (inside_of_leaving_none left)
      | some position =>
          obtain ⟨beyond, -, inside⟩ := leaving_eq_some.mp left
          dsimp only
          split_ifs with marked
          · exact loaded_realised conforms entered found small marked.1 marked.2 inside
          · refine stalled_realised conforms entered found small beyond ?_ inside
            by_contra neither
            obtain ⟨positive, mark⟩ := not_or.mp neither
            exact marked ⟨positive, not_not.mp mark⟩
  · rw [outcome_of_missing missing]
    exact missing_realised conforms entered missing

end Realising

section Exclusion

def Outcome.Rests : Outcome → Prop
  | .missing | .divideError | .loaded _ => True
  | .stalled _ | .looping => False

theorem rests_bounded {final : Config → Prop} (rests : RestsIn bios entry final) :
    ∃ bound, ∀ count, ((step code bios)^[count] entry).log.length ≤ bound := by
  obtain ⟨rest, fixed, -⟩ := rests
  refine ⟨((step code bios)^[rest] entry).log.length, fun count => ?_⟩
  rcases Nat.le_or_ge rest count with late | early
  · rw [← Nat.sub_add_cancel late, Function.iterate_add_apply, Function.iterate_fixed fixed]
  · obtain ⟨events, grown, -⟩ := run_log bios ((step code bios)^[count] entry) (rest - count)
    rw [← Function.iterate_add_apply, Nat.sub_add_cancel early] at grown
    rw [grown, List.length_append]
    omega

theorem rests_meet {final final' : Config → Prop} (rests : RestsIn bios entry final)
    (rests' : RestsIn bios entry final') : ∃ config, final config ∧ final' config := by
  obtain ⟨count, fixed, there⟩ := rests
  obtain ⟨count', fixed', there'⟩ := rests'
  rcases Nat.le_total count count' with less | more
  · have same : (step code bios)^[count'] entry = (step code bios)^[count] entry := by
      rw [← Nat.sub_add_cancel less, Function.iterate_add_apply, Function.iterate_fixed fixed]
    exact ⟨_, there, same ▸ there'⟩
  · have same : (step code bios)^[count] entry = (step code bios)^[count'] entry := by
      rw [← Nat.sub_add_cancel more, Function.iterate_add_apply, Function.iterate_fixed fixed']
    exact ⟨_, same ▸ there, there'⟩

theorem looping_settled (loops : Realises bios disk entry .looping) (bound : Nat) :
    ∃ count, bound < (settled ((step code bios)^[count] entry).log).length := by
  obtain ⟨file, -, turns⟩ := loops
  obtain ⟨count, ax, dx, log⟩ := turns bound
  refine ⟨count, ?_⟩
  rw [log, settled_boot_log, boot_log_length]
  omega

theorem settled_replicate_refused (attempts : Nat) :
    settled (List.replicate attempts (refusedRead disk file position)) = [] := by
  rw [settled, List.filter_eq_nil_iff]
  intro event listed
  rw [List.eq_of_mem_replicate listed]
  simp [refusedRead]

/-- After it has stalled only failed attempts come. -/
theorem Stalls.settled_length {count : Nat} (stalls : Stalls bios disk entry file position count)
    (later : Nat) : (settled ((step code bios)^[later + count] entry).log).length =
      file / 16 + 6 + 3 * position := by
  obtain ⟨attempts, grown⟩ := stalls.only later
  obtain ⟨ax, dx, log⟩ := stalls.log
  rw [grown, settled_append, settled_replicate_refused, List.append_nil, log, List.length_append,
    boot_log_length]
  simp only [List.length_cons, List.length_nil]
  omega

theorem settled_length_le (log : Log) : (settled log).length ≤ log.length :=
  List.length_filter_le ..

theorem settled_mono {count later : Nat} (less : count ≤ later) :
    (settled ((step code bios)^[count] entry).log).length ≤
      (settled ((step code bios)^[later] entry).log).length := by
  obtain ⟨events, grown, -⟩ := run_log bios ((step code bios)^[count] entry) (later - count)
  rw [← Function.iterate_add_apply, Nat.sub_add_cancel less] at grown
  rw [grown, settled_append, List.length_append]
  omega

theorem endless_unbounded {outcome : Outcome} (moves : ¬outcome.Rests)
    (realises : Realises bios disk entry outcome) (bound : Nat) :
    ∃ count, bound < ((step code bios)^[count] entry).log.length := by
  cases outcome with
  | missing => exact absurd trivial moves
  | divideError => exact absurd trivial moves
  | loaded length => exact absurd trivial moves
  | stalled position =>
      obtain ⟨file, count, stalls⟩ := realises
      obtain ⟨later, grown⟩ := stalls.endless (bound + 1)
      refine ⟨later + count, ?_⟩
      rw [grown, List.length_append, List.length_replicate]
      omega
  | looping =>
      obtain ⟨count, more⟩ := looping_settled realises bound
      exact ⟨count, lt_of_lt_of_le more (settled_length_le _)⟩

theorem realises_of_rests {outcome : Outcome} (rests : outcome.Rests) :
    Realises bios disk entry outcome ↔ RestsIn bios entry (Rested disk outcome) := by
  cases outcome with
  | missing => rfl
  | divideError => rfl
  | loaded length => rfl
  | stalled position => exact rests.elim
  | looping => exact rests.elim

/-- The state a run rests in tells the outcomes apart. -/
theorem rested_unique {outcome outcome' : Outcome} (rested : Rested disk outcome config)
    (rested' : Rested disk outcome' config) : outcome = outcome' := by
  have elsewhere : baseOfLoader ≠ 0#16 := by decide
  cases outcome with
  | missing =>
      obtain ⟨sound, cs, _⟩ := rested
      cases outcome' with
      | missing => rfl
      | divideError => exact absurd (sound.symm.trans rested'.1) Bool.false_ne_true
      | loaded length => exact absurd (rested'.2.1.1.symm.trans cs) elsewhere
      | stalled position => exact rested'.elim
      | looping => exact rested'.elim
  | divideError =>
      obtain ⟨fault, _⟩ := rested
      cases outcome' with
      | missing => exact absurd (rested'.1.symm.trans fault) Bool.false_ne_true
      | divideError => rfl
      | loaded length => exact absurd (rested'.1.symm.trans fault) Bool.false_ne_true
      | stalled position => exact rested'.elim
      | looping => exact rested'.elim
  | loaded length =>
      obtain ⟨sound, inside, file, ax, dx, found, log⟩ := rested
      cases outcome' with
      | missing => exact absurd (inside.1.symm.trans rested'.2.1) elsewhere
      | divideError => exact absurd (sound.symm.trans rested'.1) Bool.false_ne_true
      | loaded length' =>
          obtain ⟨_, _, file', ax', dx', found', log'⟩ := rested'
          obtain rfl := found.unique found'
          have same := congrArg List.length (log.symm.trans log')
          rw [boot_log_length, boot_log_length] at same
          congr 1
          omega
      | stalled position => exact rested'.elim
      | looping => exact rested'.elim
  | stalled position => exact rested.elim
  | looping => exact rested.elim

theorem stalled_apart_looping (stalled : Realises bios disk entry (.stalled position)) :
    ¬Realises bios disk entry .looping := by
  intro loops
  obtain ⟨file, count, stalls⟩ := stalled
  obtain ⟨later, more⟩ := looping_settled loops (file / 16 + 6 + 3 * position)
  have grown : (settled ((step code bios)^[later] entry).log).length ≤
      (settled ((step code bios)^[later + count] entry).log).length :=
    settled_mono (Nat.le_add_right later count)
  rw [stalls.settled_length later] at grown
  omega

theorem stalled_unique {position' : Nat} (stalled : Realises bios disk entry (.stalled position))
    (stalled' : Realises bios disk entry (.stalled position')) : position = position' := by
  obtain ⟨file, count, stalls⟩ := stalled
  obtain ⟨file', count', stalls'⟩ := stalled'
  obtain rfl := stalls.found.unique stalls'.found
  have first := stalls.settled_length count'
  rw [Nat.add_comm, stalls'.settled_length count] at first
  omega

theorem endless_unique {outcome outcome' : Outcome} (moves : ¬outcome.Rests)
    (moves' : ¬outcome'.Rests) (realises : Realises bios disk entry outcome)
    (realises' : Realises bios disk entry outcome') : outcome = outcome' := by
  cases outcome with
  | missing => exact absurd trivial moves
  | divideError => exact absurd trivial moves
  | loaded length => exact absurd trivial moves
  | stalled position =>
      cases outcome' with
      | missing => exact absurd trivial moves'
      | divideError => exact absurd trivial moves'
      | loaded length => exact absurd trivial moves'
      | stalled position' => rw [stalled_unique realises realises']
      | looping => exact absurd realises' (stalled_apart_looping realises)
  | looping =>
      cases outcome' with
      | missing => exact absurd trivial moves'
      | divideError => exact absurd trivial moves'
      | loaded length => exact absurd trivial moves'
      | stalled position => exact absurd realises (stalled_apart_looping realises')
      | looping => rfl

/-- A run has one outcome. -/
theorem realises_unique {outcome outcome' : Outcome} (realises : Realises bios disk entry outcome)
    (realises' : Realises bios disk entry outcome') : outcome = outcome' := by
  have apart : ∀ first second : Outcome, first.Rests → ¬second.Rests →
      Realises bios disk entry first → Realises bios disk entry second → False := by
    intro first second rests moves realised realised'
    obtain ⟨bound, within⟩ := rests_bounded ((realises_of_rests rests).mp realised)
    obtain ⟨count, more⟩ := endless_unbounded moves realised' bound
    exact absurd (within count) (Nat.not_le.mpr more)
  by_cases rests : outcome.Rests <;> by_cases rests' : outcome'.Rests
  · obtain ⟨config, rested, rested'⟩ := rests_meet ((realises_of_rests rests).mp realises)
      ((realises_of_rests rests').mp realises')
    exact rested_unique rested rested'
  · exact (apart outcome outcome' rests rests' realises realises').elim
  · exact (apart outcome' outcome rests' rests realises' realises).elim
  · exact endless_unique rests rests' realises realises'

/-- What becomes of a boot, for every disk and every BIOS that serves it: the
run realises the outcome read off the root directory and FAT1, and no other. -/
theorem boot_outcome_iff (conforms : Conforms bios disk) (entered : Start.Entry entry)
    (outcome : Outcome) : Realises bios disk entry outcome ↔ bootOutcome disk = outcome := by
  constructor
  · exact realises_unique (boot_realises conforms entered)
  · rintro rfl
    exact boot_realises conforms entered

theorem three_sectors_loaded :
    Realises (floppyBios (sequential 3) fun _ => 0) (sequential 3) (Start.powerOn fun _ => 0)
      (.loaded 3) :=
  (boot_outcome_iff (floppy_bios_conforms _) (Start.power_on_entry _) _).mpr (by decide +kernel)

end Exclusion

end BootSector.Outcomes
