import Mathlib.Data.Finset.Card
import Mathlib.Data.Fintype.Pigeonhole
import Mathlib.Logic.Function.Iterate
import Mathlib.Tactic.Common

/-!
# Chains of a successor function

A linked list laid out as a map from node to node: one follows the map from a
first node until an end mark comes up. Such a walk visits every node once, or
it visits one twice and never meets the mark.
-/

namespace BootSector.Chain

variable {α : Type*} (next : α → α) (mark first : α)

structure EndsAfter (length : Nat) : Prop where
  before : ∀ position < length, next^[position] first ≠ mark
  mark : next^[length] first = mark

/-- A node recurs, and the mark has not come up. -/
def Loops : Prop :=
  ∃ position later, position < later ∧ next^[position] first = next^[later] first ∧
    ∀ earlier ≤ later, next^[earlier] first ≠ mark

/-- The nodes the walk visits; the first one is visited whatever it is. -/
def Visits (node : α) : Prop :=
  ∃ position, (∀ earlier < position, next^[earlier + 1] first ≠ mark) ∧
    next^[position] first = node

variable {next mark first}

theorem EndsAfter.distinct {length position later : Nat} (ends : EndsAfter next mark first length)
    (less : position < later) (within : later ≤ length) :
    next^[position] first ≠ next^[later] first := by
  intro same
  have shifted : next^[position + (length - later)] first = mark := by
    rw [Nat.add_comm, Function.iterate_add_apply, same, ← Function.iterate_add_apply,
      Nat.sub_add_cancel within, ends.mark]
  exact ends.before _ (by omega) shifted

theorem EndsAfter.length_le {length : Nat} (ends : EndsAfter next mark first length)
    (nodes : Finset α) (inside : ∀ position < length, next^[position] first ∈ nodes) :
    length ≤ nodes.card := by
  have injective : Set.InjOn (fun position => next^[position] first) (Finset.range length) := by
    intro position bound later bound' same
    simp only [Finset.coe_range, Set.mem_Iio] at bound bound'
    rcases Nat.lt_trichotomy position later with less | equal | more
    · exact absurd same (ends.distinct less (by omega))
    · exact equal
    · exact absurd same.symm (ends.distinct more (by omega))
  calc length = (Finset.range length).card := (Finset.card_range length).symm
    _ ≤ nodes.card := Finset.card_le_card_of_injOn _
        (fun position bound => inside position (Finset.mem_range.mp bound)) injective

theorem Loops.unending (loops : Loops next mark first) (length : Nat) :
    ¬EndsAfter next mark first length := by
  rintro ends
  obtain ⟨position, later, less, same, before⟩ := loops
  rcases Nat.lt_or_ge later length with within | beyond
  · exact ends.distinct less within.le same
  · exact before length beyond ends.mark

theorem never_of_unending (unending : ∀ length, ¬EndsAfter next mark first length)
    (position : Nat) : next^[position] first ≠ mark := by
  induction position using Nat.strongRecOn with
  | ind position ih => exact fun reached => unending position ⟨ih, reached⟩

/-- In a finite set a walk that never ends must loop. -/
theorem loops_of_unending (nodes : Finset α)
    (inside : ∀ position, (∀ earlier ≤ position, next^[earlier] first ≠ mark) →
      next^[position] first ∈ nodes)
    (unending : ∀ length, ¬EndsAfter next mark first length) : Loops next mark first := by
  have never := never_of_unending unending
  have maps : Set.MapsTo (fun position => next^[position] first)
      (Finset.range (nodes.card + 1)) nodes :=
    fun position _ => inside position (fun earlier _ => never earlier)
  obtain ⟨position, -, later, -, different, same⟩ :=
    Finset.exists_ne_map_eq_of_card_lt_of_maps_to (by simp) maps
  rcases Nat.lt_or_gt_of_ne different with less | more
  · exact ⟨position, later, less, same, fun earlier _ => never earlier⟩
  · exact ⟨later, position, more, same.symm, fun earlier _ => never earlier⟩

/-- A walk that stays in a finite set for as many steps as it has nodes stays
there. -/
theorem inside_of_long (nodes : Finset α)
    (inside : ∀ position ≤ nodes.card, next^[position] first ∈ nodes) (position : Nat) :
    next^[position] first ∈ nodes := by
  have maps : Set.MapsTo (fun position => next^[position] first)
      (Finset.range (nodes.card + 1)) nodes :=
    fun position bound => inside position (by simpa [Nat.lt_succ_iff] using bound)
  obtain ⟨earlier, bound, later, bound', different, same⟩ :=
    Finset.exists_ne_map_eq_of_card_lt_of_maps_to (by simp) maps
  wlog less : earlier < later generalizing earlier later
  · exact this later bound' earlier bound different.symm same.symm (by omega)
  have within : later ≤ nodes.card := by simpa [Nat.lt_succ_iff] using bound'
  induction position using Nat.strongRecOn with
  | ind position ih =>
      rcases Nat.le_or_ge position nodes.card with short | long
      · exact inside position short
      · have back : next^[position] first = next^[position - later + earlier] first := by
          rw [Function.iterate_add_apply, same, ← Function.iterate_add_apply,
            Nat.sub_add_cancel (within.trans long)]
        rw [back]
        exact ih _ (by omega)

end BootSector.Chain
