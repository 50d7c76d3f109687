import Mathlib.Logic.Function.Iterate
import Mathlib.Order.Monotone.Basic
import Mathlib.Tactic.Common

/-!
# Systems with a consulted part

Some steps of a system consult a part of it that has a state of its own, and
leave a record of having done so. No record comes twice, so the state of the
part at a consultation is a function of the record: the run is one of the rest
of the system alone, with an oracle in place of the part, and what holds for
every oracle holds of the whole.
-/

namespace BootSector.Composite

structure Joint (State Part : Type*) where
  state : State
  part : Part

structure Rules (State Part : Type*) where
  next : Part → State → State
  consults : State → Bool
  update : State → Part → Part

variable {State Part Record : Type*} (rules : Rules State Part) (record : State → Record)

def Rules.step (joint : Joint State Part) : Joint State Part where
  state := rules.next joint.part joint.state
  part := if rules.consults joint.state then rules.update joint.state joint.part else joint.part

/-- The state alone, with an oracle for the part. -/
def Rules.alone (oracle : Record → Part) (state : State) : State :=
  rules.next (oracle (record state)) state

structure Recorded (size : Record → Nat) : Prop where
  ignores : ∀ state, rules.consults state = false → ∀ part part',
    rules.next part state = rules.next part' state
  grows : ∀ part state, size (record state) ≤ size (record (rules.next part state))
  notes : ∀ part state, rules.consults state = true →
    size (record state) < size (record (rules.next part state))

variable (good : Part → Prop) (start : Joint State Part)

/-- The run consults a part in good order, with this record behind it. -/
def Asked (past : Record) (count : Nat) : Prop :=
  rules.consults (rules.step^[count] start).state = true ∧
    record (rules.step^[count] start).state = past ∧ good (rules.step^[count] start).part

open Classical in
noncomputable def parts (past : Record) : Part :=
  if asked : ∃ count, Asked rules record good start past count then
    (rules.step^[asked.choose] start).part
  else start.part

variable {rules record good start} {size : Record → Nat}

theorem record_grows (recorded : Recorded rules record size) :
    Monotone fun count => size (record (rules.step^[count] start).state) := by
  apply monotone_nat_of_le_succ
  intro count
  rw [Function.iterate_succ_apply']
  exact recorded.grows _ _

theorem record_fresh (recorded : Recorded rules record size) {earlier later : Nat}
    (less : earlier < later)
    (consults : rules.consults (rules.step^[earlier] start).state = true) :
    record (rules.step^[earlier] start).state ≠ record (rules.step^[later] start).state := by
  intro same
  have noted := recorded.notes (rules.step^[earlier] start).part _ consults
  have grown : size (record (rules.step^[earlier + 1] start).state) ≤
      size (record (rules.step^[later] start).state) := record_grows recorded less
  rw [Function.iterate_succ_apply', ← same] at grown
  exact absurd grown (Nat.not_le_of_lt noted)

/-- No two consultations have one record. -/
theorem asked_once (recorded : Recorded rules record size) {past : Record} {count count' : Nat}
    (asked : Asked rules record good start past count)
    (asked' : Asked rules record good start past count') : count = count' := by
  obtain ⟨consults, same, -⟩ := asked
  obtain ⟨consults', same', -⟩ := asked'
  rcases Nat.lt_trichotomy count count' with less | equal | more
  · exact absurd (same.trans same'.symm) (record_fresh recorded less consults)
  · exact equal
  · exact absurd (same'.trans same.symm) (record_fresh recorded more consults')

theorem parts_good (good : Part → Prop) (start : Joint State Part) (begins : good start.part)
    (past : Record) :
    good (parts rules record good start past) := by
  rw [parts]
  split_ifs with asked
  · exact asked.choose_spec.2.2
  · exact begins

theorem parts_asked (recorded : Recorded rules record size) {past : Record} {count : Nat}
    (asked : Asked rules record good start past count) :
    parts rules record good start past = (rules.step^[count] start).part := by
  have ever : ∃ count, Asked rules record good start past count := ⟨count, asked⟩
  rw [parts, dif_pos ever, asked_once recorded ever.choose_spec asked]

/-- The run of the whole is one of the state alone. For the part to stay in
good order it is enough that it does where the state alone consults it. -/
theorem runs_alone (recorded : Recorded rules record size) (begins : good start.part)
    (keeps : ∀ count, (rules.step^[count] start).state =
        (rules.alone record (parts rules record good start))^[count] start.state →
      rules.consults (rules.step^[count] start).state = true →
      good (rules.step^[count] start).part →
      good (rules.update (rules.step^[count] start).state (rules.step^[count] start).part))
    (count : Nat) :
    (rules.step^[count] start).state =
        (rules.alone record (parts rules record good start))^[count] start.state ∧
      good (rules.step^[count] start).part := by
  induction count with
  | zero => exact ⟨rfl, begins⟩
  | succ count ih =>
      obtain ⟨same, order⟩ := ih
      rw [Function.iterate_succ_apply', Function.iterate_succ_apply', ← same]
      cases consults : rules.consults (rules.step^[count] start).state with
      | false =>
          refine ⟨recorded.ignores _ consults _ _, ?_⟩
          simp only [Rules.step, consults, Bool.false_eq_true, if_false]
          exact order
      | true =>
          have asked : Asked rules record good start _ count := ⟨consults, rfl, order⟩
          refine ⟨?_, ?_⟩
          · rw [Rules.alone, parts_asked recorded asked]
            rfl
          · simp only [Rules.step, consults, if_true]
            exact keeps count same consults order

end BootSector.Composite
