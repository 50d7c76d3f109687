import BootSector.FileLoading

/-!
# Failing reads

Two runs on one disk image that differ in which attempts at a read fail end
alike: both follow the same run of the abstract loader.
-/

namespace BootSector.Retries

open RealMode Bios Program Floppy Execution Assertion Loader Refinement

variable {bios bios' : Services} {disk : Disk} {entry : Config} {failures : Nat → Nat}

/-- What a run leaves to the loader, or to the user. -/
structure SameEnd (first second : Config) : Prop where
  ip : second.machine.ip = first.machine.ip
  reads : completed second.log = completed first.log
  sp : second.machine.sp = first.machine.sp
  es : second.machine.es = first.machine.es
  bx : second.machine.bx = first.machine.bx
  buffer : ∀ address, 0x8000 ≤ address → address < 0x8400 →
    second.machine.memory address = first.machine.memory address
  segment : ∀ address, 0x10000 ≤ address → address < 0x20000 →
    second.machine.memory address = first.machine.memory address

theorem completed_settled (log : Log) : completed (settled log) = completed log := by
  simp only [completed, settled, List.filterMap_filter]
  congr 1
  funext event
  cases event with
  | read call request failed => cases failed <;> rfl
  | video ax bx => rfl
  | disk ax dx => rfl

def Final (phase : Phase) : Prop := ¬phase.Running ∧ phase ≠ .faulted

theorem final_ended {memory : Memory} {state : State} {config : Config} (final : Final state.phase)
    (sim : Simulates disk memory state config) : Ended config := by
  have place := sim.place
  rcases Phase.ending_cases final.1 final.2 with ⟨count, loaded⟩ | missing
  · rw [loaded] at place
    exact .inl place.ip
  · rw [missing] at place
    exact .inr place.ip

theorem reached_completed {position : Nat} {config : Config} {ax dx : Word} {memory : Memory}
    (sim : Simulates disk memory (stateAt disk (Start.startLog ax dx) position) config) :
    completed config.log = completed (stateAt disk (Start.startLog 0 0) position).log := by
  rw [← completed_settled, sim.log, stateAt, stateAt, completed_append, completed_append]
  rfl

/-- Two runs at the same final phase have ended alike. -/
theorem same_end {position : Nat} {first second : Config} (final : Final (phaseAt disk position))
    (reached : Reached disk entry position first) (reached' : Reached disk entry position second) :
    SameEnd first second := by
  obtain ⟨ax, dx, sim⟩ := reached
  obtain ⟨ax', dx', sim'⟩ := reached'
  have reads := reached_completed sim
  have reads' := reached_completed sim'
  have mirrors := sim.mirrors final.2
  have mirrors' := sim'.mirrors final.2
  rw [← completed_settled, sim.log] at reads
  rw [← completed_settled, sim'.log] at reads'
  have registers : second.machine.ip = first.machine.ip ∧ second.machine.sp = first.machine.sp ∧
      second.machine.es = first.machine.es ∧ second.machine.bx = first.machine.bx := by
    rcases Phase.ending_cases final.1 final.2 with ⟨count, loaded⟩ | missing
    · have place := sim.place_at loaded
      have place' := sim'.place_at loaded
      exact ⟨place'.ip.trans place.ip.symm, place'.sp.trans place.sp.symm,
        place'.es.trans place.es.symm, place'.bx.trans place.bx.symm⟩
    · have place := sim.place_at missing
      have place' := sim'.place_at missing
      exact ⟨place'.ip.trans place.ip.symm, place'.sp.trans place.sp.symm,
        place'.es.trans place.es.symm, place'.bx.trans place.bx.symm⟩
  exact
    { ip := registers.1
      reads := by rw [reached_completed sim', reached_completed sim]
      sp := registers.2.1
      es := registers.2.2.1
      bx := registers.2.2.2
      buffer := fun address lower upper => by
        rw [mirrors'.buffer address lower upper, mirrors.buffer address lower upper, reads, reads']
      segment := fun address lower upper => by
        rw [mirrors'.segment address lower (by omega), mirrors.segment address lower (by omega),
          reads, reads'] }

/-- A run that ends is at a final phase of the abstract loader. -/
theorem ends_final (honours : Honours bios disk) (entered : Start.Entry entry) {count : Nat}
    (ends : EndsAt bios entry count) :
    ∃ position, (∀ earlier < position, (phaseAt disk earlier).Running) ∧
      Final (phaseAt disk position) ∧
      Reached disk entry position ((step code bios)^[count] entry) := by
  have stops : ∃ position, ¬(phaseAt disk position).Running := by
    by_contra never
    have running : ∀ position, (phaseAt disk position).Running := by
      simpa only [not_exists, not_not] using never
    have endless : Forever (step code bios) (Good 0x7bf0 .any) entry :=
      run_endless honours entered running (fun _ => permits_any _)
    exact (endless count).2.1 ends.ended
  have before : ∀ earlier < Nat.find stops, (phaseAt disk earlier).Running :=
    fun earlier less => not_not.mp (Nat.find_min stops less)
  have runs : Runs (step code bios) False (Good 0x7bf0 .any) entry _ :=
    run_reaches (fun _ => 0) _ honours entered before (fun _ _ => permits_any _) False.elim
  rcases runs with ⟨_, forever⟩ | ⟨arrival, good, reached⟩
  · exact absurd ends.ended (forever count).2.1
  · have late : arrival ≤ count := by
      by_contra early
      exact (good count (Nat.lt_of_not_le early)).2.1 ends.ended
    have final : Final (phaseAt disk (Nat.find stops)) := by
      refine ⟨Nat.find_spec stops, fun faulted => ?_⟩
      obtain ⟨ax, dx, sim⟩ := reached
      have never : ¬Ended ((step code bios)^[count - arrival] _) :=
        Finish.fault_never_ends (sim.place_at faulted) (count - arrival)
      rw [← Function.iterate_add_apply, Nat.sub_add_cancel late] at never
      exact never ends.ended
    have same : arrival = count := by
      obtain ⟨ax, dx, sim⟩ := reached
      exact EndsAt.unique ⟨fun earlier less => (good earlier less).2.1, final_ended final sim⟩ ends
    exact ⟨Nat.find stops, before, final, same ▸ reached⟩

/-- A run that ends ends alike under any finite number of failing attempts at
each of its reads. -/
theorem retries_invisible (honours : Honours bios disk) (honours' : Honours bios' disk)
    (entered : Start.Entry entry) {count : Nat} (ends : EndsAt bios entry count)
    (serves : ∀ read ∈ completed ((step code bios)^[count] entry).log,
      Serves bios' failures read.2) :
    ∃ count', EndsAt bios' entry count' ∧
      SameEnd ((step code bios)^[count] entry) ((step code bios')^[count'] entry) := by
  obtain ⟨position, running, final, reached⟩ := ends_final honours entered ends
  have issued : ∀ earlier < position, ∀ read ∈ (phaseAt disk earlier).reads,
      Serves bios' failures read.2 := by
    intro earlier less read listed
    apply serves
    obtain ⟨ax, dx, sim⟩ := reached
    rw [← completed_settled, sim.log, stateAt, completed_append]
    apply List.mem_append_right
    simp only [completed, List.mem_filterMap, List.mem_flatMap, List.mem_range]
    obtain ⟨event, made, same⟩ := List.mem_filterMap.mp listed
    exact ⟨event, ⟨earlier, less, made⟩, same⟩
  have runs : Runs (step code bios') True (Good 0x7bf0 .any) entry _ :=
    run_reaches failures position honours' entered running (fun _ _ => permits_any _)
      (fun _ => issued)
  obtain ⟨arrival, good, reached'⟩ := runs.reaches trivial
  refine ⟨arrival, ⟨fun earlier less => (good earlier less).2.1, ?_⟩,
    same_end final reached reached'⟩
  obtain ⟨ax, dx, sim⟩ := reached'
  exact final_ended final sim

/-- Against the run without errors, one in which the `n`-th read fails `n` times first. -/
theorem retries_invisible_three_sectors : ∃ count count',
    EndsAt (floppyBios (sequential 3) fun _ => 0) (Start.powerOn fun _ => 0) count ∧
      EndsAt (floppyBios (sequential 3) fun read => read) (Start.powerOn fun _ => 0) count' ∧
      SameEnd ((step code (floppyBios (sequential 3) fun _ => 0))^[count]
          (Start.powerOn fun _ => 0))
        ((step code (floppyBios (sequential 3) fun read => read))^[count']
          (Start.powerOn fun _ => 0)) := by
  have found : FirstLoader (sequential 3) 0 := formatted_first_loader _ _
  have chain : FileChain (sequential 3) 0 3 := sequential_chain (by decide) (by decide)
  have complete := FileLoading.file_complete (floppy_bios_honours _ _) (floppy_bios_succeeds _)
    (Start.power_on_entry fun _ => 0) found chain
  obtain ⟨count, ends, complete⟩ := EndsAt.of_reaches
    (complete.mono (fun _ good => good.2.1) (fun _ => id))
    (fun _ complete => .inl complete.atEnd.ip)
  obtain ⟨count', ends', same⟩ := retries_invisible (floppy_bios_honours _ _)
    (floppy_bios_honours (sequential 3) fun read => read) (Start.power_on_entry _) ends
    (fun read listed => floppy_bios_recovers _ _ _ (complete.on_disk found chain listed))
  exact ⟨count, count', ends, ends', same⟩

end BootSector.Retries
