import Mathlib.Logic.Function.Iterate
import Mathlib.Tactic.Common

/-!
# Runs of a deterministic system

A run is the iteration of one step function. `Runs` is a Floyd assertion on
it: along the run `during` holds until a state that satisfies `after` is
reached. Where `total` is false the run may instead go on forever inside
`during`, so one proof about a program serves both the runs that must end and
the runs whose environment may stall them.
-/

namespace BootSector.Execution

variable {State : Type*} (step : State → State)

def Forever (during : State → Prop) (state : State) : Prop :=
  ∀ count, during (step^[count] state)

def Reaches (during : State → Prop) (state : State) (after : State → Prop) : Prop :=
  ∃ count, (∀ earlier < count, during (step^[earlier] state)) ∧ after (step^[count] state)

def Runs (total : Prop) (during : State → Prop) (state : State) (after : State → Prop) : Prop :=
  (¬total ∧ Forever step during state) ∨ Reaches step during state after

def Advances (total : Prop) (during : State → Prop) (state : State) (after : State → Prop) : Prop :=
  during state ∧ Runs step total during (step state) after

/-- `during` holds at the first `count` states, `after` at the next: the form
symbolic execution unfolds. -/
def Walk (during after : State → Prop) : Nat → State → Prop
  | 0, state => after state
  | count + 1, state => during state ∧ Walk during after count (step state)

variable {step} {total : Prop} {during during' after after' : State → Prop} {state : State}

namespace Forever

theorem next (now : during state) (later : Forever step during (step state)) :
    Forever step during state := by
  intro count
  cases count with
  | zero => exact now
  | succ count => simpa only [Function.iterate_succ_apply] using later count

theorem mono (weaker : ∀ state, during state → during' state)
    (forever : Forever step during state) : Forever step during' state :=
  fun count => weaker _ (forever count)

theorem of_preserved {invariant : State → Prop}
    (preserved : ∀ state, invariant state → invariant (step state)) (now : invariant state) :
    Forever step invariant state := by
  intro count
  induction count with
  | zero => exact now
  | succ count ih =>
      rw [Function.iterate_succ_apply']
      exact preserved _ ih

theorem of_fixed (fixed : step state = state) (now : during state) :
    Forever step during state := by
  intro count
  rw [Function.iterate_fixed fixed count]
  exact now

end Forever

namespace Reaches

theorem here (now : after state) : Reaches step during state after :=
  ⟨0, by simp, now⟩

theorem next (now : during state) (later : Reaches step during (step state) after) :
    Reaches step during state after := by
  obtain ⟨count, before, final⟩ := later
  refine ⟨count + 1, ?_, by simpa only [Function.iterate_succ_apply] using final⟩
  intro earlier bound
  cases earlier with
  | zero => exact now
  | succ earlier => simpa only [Function.iterate_succ_apply] using before earlier (by omega)

theorem mono (weakerDuring : ∀ state, during state → during' state)
    (weakerAfter : ∀ state, after state → after' state)
    (reaches : Reaches step during state after) : Reaches step during' state after' := by
  obtain ⟨count, before, final⟩ := reaches
  exact ⟨count, fun earlier bound => weakerDuring _ (before earlier bound), weakerAfter _ final⟩

theorem bind (first : Reaches step during state after)
    (second : ∀ state, after state → Reaches step during state after') :
    Reaches step during state after' := by
  obtain ⟨count, before, final⟩ := first
  obtain ⟨more, beforeMore, finalMore⟩ := second _ final
  refine ⟨more + count, ?_, by rwa [Function.iterate_add_apply]⟩
  intro earlier bound
  by_cases early : earlier < count
  · exact before earlier early
  · have late := beforeMore (earlier - count) (by omega)
    rw [← Function.iterate_add_apply] at late
    rwa [show earlier - count + count = earlier by omega] at late

theorem forever (reaches : Reaches step during state after)
    (finish : ∀ state, after state → Forever step during state) : Forever step during state := by
  obtain ⟨count, before, final⟩ := reaches
  intro position
  by_cases early : position < count
  · exact before position early
  · have late := finish _ final (position - count)
    rw [← Function.iterate_add_apply] at late
    rwa [show position - count + count = position by omega] at late

theorem keep {invariant : State → Prop}
    (preserved : ∀ state, during state → invariant state → invariant (step state))
    (now : invariant state) (reaches : Reaches step during state after) :
    Reaches step during state (fun later => invariant later ∧ after later) := by
  obtain ⟨count, before, final⟩ := reaches
  refine ⟨count, before, ?_, final⟩
  clear final
  induction count with
  | zero => exact now
  | succ count ih =>
      rw [Function.iterate_succ_apply']
      have earlierKept := ih fun earlier bound => before earlier (by omega)
      exact preserved _ (before count (by omega)) earlierKept

/-- Two first arrivals at a property are one state. -/
theorem meet {arrived : State → Prop}
    (first : Reaches step (fun state => ¬arrived state) state after)
    (second : Reaches step (fun state => ¬arrived state) state after')
    (arrives : ∀ state, after state → arrived state)
    (arrives' : ∀ state, after' state → arrived state) : ∃ state, after state ∧ after' state := by
  obtain ⟨count, before, final⟩ := first
  obtain ⟨count', before', final'⟩ := second
  rcases Nat.lt_trichotomy count count' with less | same | more
  · exact absurd (arrives _ final) (before' count less)
  · exact ⟨_, final, same ▸ final'⟩
  · exact absurd (arrives' _ final') (before count' more)

theorem exists_iterate (reaches : Reaches step during state after) :
    ∃ count, after (step^[count] state) := by
  obtain ⟨count, _, final⟩ := reaches
  exact ⟨count, final⟩

end Reaches

namespace Runs

theorem here (now : after state) : Runs step total during state after := .inr (.here now)

theorem next (now : during state) (later : Runs step total during (step state) after) :
    Runs step total during state after := by
  rcases later with ⟨partly, forever⟩ | reaches
  · exact .inl ⟨partly, .next now forever⟩
  · exact .inr (.next now reaches)

theorem walk (count : Nat)
    (walked : Walk step during (fun state => Runs step total during state after) count state) :
    Runs step total during state after := by
  induction count generalizing state with
  | zero => exact walked
  | succ count ih => exact .next walked.1 (ih walked.2)

theorem mono (weakerDuring : ∀ state, during state → during' state)
    (weakerAfter : ∀ state, after state → after' state)
    (runs : Runs step total during state after) : Runs step total during' state after' :=
  runs.imp (fun stalled => ⟨stalled.1, stalled.2.mono weakerDuring⟩)
    (fun reaches => reaches.mono weakerDuring weakerAfter)

theorem bind (first : Runs step total during state after)
    (second : ∀ state, after state → Runs step total during state after') :
    Runs step total during state after' := by
  rcases first with stalled | ⟨count, before, final⟩
  · exact .inl stalled
  · rcases second _ final with ⟨partly, forever⟩ | reaches
    · have joined : Reaches step during state (· = step^[count] state) := ⟨count, before, rfl⟩
      exact .inl ⟨partly, joined.forever (fun _ same => same ▸ forever)⟩
    · have joined : Reaches step during state (· = step^[count] state) := ⟨count, before, rfl⟩
      exact .inr (joined.bind (fun _ same => same ▸ reaches))

theorem reaches (runs : Runs step total during state after) (ends : total) :
    Reaches step during state after :=
  runs.resolve_left (fun stalled => stalled.1 ends)

theorem forever (runs : Runs step total during state after)
    (finish : ∀ state, after state → Forever step during state) : Forever step during state :=
  runs.elim (fun stalled => stalled.2) (fun reaches => reaches.forever finish)

theorem advance {count : Nat}
    (walked :
      Walk step during (fun state => Runs step total during state after) (count + 1) state) :
    Advances step total during state after :=
  ⟨walked.1, walk count walked.2⟩

/-- Where `after` is never reached, the states visited between one arrival at
the invariant and the next make up the whole run. -/
private theorem loop_forever {invariant : State → Prop}
    (body : ∀ state, invariant state →
      Advances step total during state (fun later => after later ∨ invariant later))
    (position : Nat) : ∀ state, invariant state → ¬Reaches step during state after →
      during (step^[position] state) := by
  induction position using Nat.strongRecOn with
  | ind position ih =>
      intro state now never
      obtain ⟨here, runs⟩ := body state now
      rcases runs with ⟨_, forever⟩ | ⟨count, before, final⟩
      · exact Forever.next here forever position
      · have rejoins : ∀ later, later = step^[count] (step state) →
            Reaches step during later after → Reaches step during state after := by
          intro later same reaches
          have arrives : Reaches step during (step state) (· = later) := ⟨count, before, same.symm⟩
          exact .next here (arrives.bind (fun _ equal => equal ▸ reaches))
        rcases final with stop | again
        · exact absurd (rejoins _ rfl (.here stop)) never
        · rcases Nat.lt_or_ge position (count + 1) with early | late
          · cases position with
            | zero => exact here
            | succ position =>
                simpa only [Function.iterate_succ_apply] using before position (by omega)
          · have resumed := ih (position - (count + 1)) (by omega) _ again
              (fun reaches => never (rejoins _ rfl reaches))
            rw [← Function.iterate_succ_apply, ← Function.iterate_add_apply] at resumed
            rwa [show position - (count + 1) + count.succ = position by omega] at resumed

/-- The loop rule. The invariant is found again after at least one step, or
the loop is left; where the run must end, a measure falls. -/
theorem loop (invariant : State → Prop) (measure : State → Nat)
    (body : ∀ state, invariant state → Advances step total during state (fun later =>
      after later ∨ (invariant later ∧ (total → measure later < measure state))))
    (now : invariant state) : Runs step total during state after := by
  by_cases ends : total
  · right
    induction size : measure state using Nat.strongRecOn generalizing state with
    | ind size ih =>
        obtain ⟨here, runs⟩ := body state now
        refine .next here ((runs.reaches ends).bind ?_)
        rintro later (stop | ⟨again, smaller⟩)
        · exact .here stop
        · exact ih _ (size ▸ smaller ends) again rfl
  · by_cases reached : Reaches step during state after
    · exact .inr reached
    · have again : ∀ state, invariant state →
          Advances step total during state (fun later => after later ∨ invariant later) := by
        intro state now
        obtain ⟨here, runs⟩ := body state now
        exact ⟨here, runs.mono (fun _ => id) (fun _ => Or.imp_right And.left)⟩
      exact .inl ⟨ends, fun position => loop_forever again position state now reached⟩

end Runs

namespace Advances

theorem runs (advances : Advances step total during state after) :
    Runs step total during state after :=
  .next advances.1 advances.2

theorem bind (first : Advances step total during state after)
    (second : ∀ state, after state → Runs step total during state after') :
    Advances step total during state after' :=
  ⟨first.1, first.2.bind second⟩

theorem mono (weakerDuring : ∀ state, during state → during' state)
    (weakerAfter : ∀ state, after state → after' state)
    (advances : Advances step total during state after) :
    Advances step total during' state after' :=
  ⟨weakerDuring _ advances.1, advances.2.mono weakerDuring weakerAfter⟩

end Advances

section Stages

variable (stage : Nat → State → Prop)

theorem Runs.chain {count : Nat}
    (body : ∀ position < count, ∀ state, stage position state →
      Advances step total during state (stage (position + 1)))
    (now : stage 0 state) : Runs step total during state (stage count) := by
  induction count with
  | zero => exact .here now
  | succ count ih =>
      have before := ih (fun position bound => body position (by omega))
      exact before.bind (fun later at_ => (body count (by omega) later at_).runs)

theorem Forever.of_stages
    (body : ∀ position state, stage position state →
      Advances step total during state (stage (position + 1)))
    (now : stage 0 state) : Forever step during state := by
  have stalls : Runs step False during state (fun _ => False) := by
    refine Runs.loop (fun state => ∃ position, stage position state) (fun _ => 0) ?_ ⟨0, now⟩
    rintro state ⟨position, at_⟩
    obtain ⟨here, runs⟩ := body position state at_
    refine ⟨here, ?_⟩
    rcases runs with stalled | reaches
    · exact .inl ⟨id, stalled.2⟩
    · exact .inr (reaches.mono (fun _ => id)
        (fun _ later => .inr ⟨⟨position + 1, later⟩, False.elim⟩))
  exact stalls.forever (fun _ => False.elim)

end Stages

end BootSector.Execution
