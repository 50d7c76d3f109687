import Mathlib.Data.List.Induction
import Mathlib.Tactic.Common
import Mathlib.Order.Basic

/-!
# Contents written extent by extent

Cells that are replaced a run at a time. Runs that follow each other are one
run, and after any number of them each cell holds what the last one to cover it
put there.
-/

namespace BootSector.Extents

variable {α : Type*}

section Replace

def replace (contents : Nat → α) (first length : Nat) (data : Nat → α) : Nat → α := fun cell =>
  if first ≤ cell ∧ cell < first + length then data (cell - first) else contents cell

variable {contents data : Nat → α} {first length cell index : Nat}

theorem replace_inside (contents data : Nat → α) (first : Nat) (bound : index < length) :
    replace contents first length data (first + index) = data index := by
  rw [replace, if_pos ⟨Nat.le_add_right _ _, Nat.add_lt_add_left bound _⟩, Nat.add_sub_cancel_left]

theorem replace_outside (out : ¬(first ≤ cell ∧ cell < first + length)) :
    replace contents first length data cell = contents cell :=
  if_neg out

theorem replace_nothing : replace contents first 0 data = contents := by
  funext cell
  exact replace_outside (by omega)

theorem replace_congr {data' : Nat → α} (same : ∀ index < length, data index = data' index) :
    replace contents first length data = replace contents first length data' := by
  funext cell
  simp only [replace]
  split_ifs with covered
  · exact same _ (by omega)
  · rfl

theorem replace_replace (more : Nat) :
    replace (replace contents first length data) (first + length) more
      (fun index => data (length + index)) = replace contents first (length + more) data := by
  funext cell
  simp only [replace]
  split_ifs with behind whole before whole'
  · exact congrArg data (by omega)
  · omega
  · rfl
  · omega
  · omega
  · rfl

end Replace

section Agreement

def Agree (size : Nat) (contents contents' : Nat → α) : Prop :=
  ∀ cell < size, contents cell = contents' cell

variable {size : Nat} {contents contents' contents'' : Nat → α}

theorem Agree.refl (size : Nat) (contents : Nat → α) : Agree size contents contents :=
  fun _ _ => rfl

theorem Agree.trans (first : Agree size contents contents')
    (second : Agree size contents' contents'') : Agree size contents contents'' :=
  fun cell bound => (first cell bound).trans (second cell bound)

theorem Agree.replace (agree : Agree size contents contents') (first length : Nat)
    (data : Nat → α) :
    Agree size (replace contents first length data) (replace contents' first length data) := by
  intro cell bound
  simp only [Extents.replace, agree cell bound]

end Agreement

section Writes

structure Extent (α : Type*) where
  first : Nat
  length : Nat
  data : Nat → α

def Extent.Covers (extent : Extent α) (cell : Nat) : Prop :=
  extent.first ≤ cell ∧ cell < extent.first + extent.length

instance (extent : Extent α) (cell : Nat) : Decidable (extent.Covers cell) :=
  inferInstanceAs (Decidable (_ ∧ _))

def Extent.write (extent : Extent α) (contents : Nat → α) : Nat → α :=
  replace contents extent.first extent.length extent.data

def written (extents : List (Extent α)) (contents : Nat → α) : Nat → α :=
  extents.foldl (fun contents extent => extent.write contents) contents

/-- The last write to cover a cell. -/
def latest (extents : List (Extent α)) (cell : Nat) : Option (Extent α) :=
  extents.reverse.find? fun extent => extent.Covers cell

variable {size : Nat} {contents contents' : Nat → α}

theorem Agree.written (agree : Agree size contents contents') (extents : List (Extent α)) :
    Agree size (written extents contents) (written extents contents') := by
  induction extents generalizing contents contents' with
  | nil => exact agree
  | cons extent rest ih => exact ih (agree.replace _ _ _)

/-- A cell holds what the last write to cover it put there. -/
theorem written_latest (extents : List (Extent α)) (contents : Nat → α) (cell : Nat) :
    written extents contents cell = (latest extents cell).elim (contents cell)
      fun extent => extent.data (cell - extent.first) := by
  induction extents using List.reverseRecOn with
  | nil => rfl
  | append_singleton extents extent ih =>
      simp only [written, List.foldl_append, List.foldl_cons, List.foldl_nil, latest,
        List.reverse_append, List.reverse_cons, List.reverse_nil, List.nil_append,
        List.cons_append, List.find?_cons] at ih ⊢
      by_cases covers : extent.Covers cell
      · simp only [decide_eq_true covers, Option.elim_some]
        exact if_pos covers
      · simp only [decide_eq_false covers]
        exact (replace_outside covers).trans ih

end Writes

end BootSector.Extents
