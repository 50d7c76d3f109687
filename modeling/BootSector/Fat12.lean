import Mathlib.Tactic.Common

/-!
# FAT12 tables

Entries of twelve bits, two to three bytes: entry `2m` in byte `3m` and the
low nibble of byte `3m + 1`, entry `2m + 1` in that byte's high nibble and
byte `3m + 2`.
-/

namespace BootSector.Fat12

abbrev Table := Nat → BitVec 8

def entry (table : Table) (index : Nat) : Nat :=
  let word := (table (3 * index / 2)).toNat + 256 * (table (3 * index / 2 + 1)).toNat
  if index % 2 = 0 then word % 4096 else word / 16

def pack (entries : Nat → Nat) : Table := fun byte =>
  let even := entries (2 * (byte / 3))
  let odd := entries (2 * (byte / 3) + 1)
  BitVec.ofNat 8
    (if byte % 3 = 0 then even % 256
      else if byte % 3 = 1 then even / 256 % 16 + 16 * (odd % 16)
      else odd / 16)

/-- The table with one entry replaced; its neighbour in the shared byte stays. -/
def setEntry (table : Table) (index value : Nat) : Table := fun byte =>
  let old := (table byte).toNat
  if byte = 3 * index / 2 then
    BitVec.ofNat 8 (if index % 2 = 0 then value % 256 else old % 16 + 16 * (value % 16))
  else if byte = 3 * index / 2 + 1 then
    BitVec.ofNat 8 (if index % 2 = 0 then value / 256 % 16 + 16 * (old / 16) else value / 16)
  else table byte

theorem entry_lt (table : Table) (index : Nat) : entry table index < 4096 := by
  have low := (table (3 * index / 2)).isLt
  have high := (table (3 * index / 2 + 1)).isLt
  simp only [entry]
  split <;> omega

theorem entry_congr {table table' : Table} {index : Nat}
    (low : table (3 * index / 2) = table' (3 * index / 2))
    (high : table (3 * index / 2 + 1) = table' (3 * index / 2 + 1)) :
    entry table index = entry table' index := by
  simp only [entry, low, high]

theorem entry_pack (entries : Nat → Nat) (index : Nat) (small : entries index < 4096) :
    entry (pack entries) index = entries index := by
  rcases Nat.mod_two_eq_zero_or_one index with even | odd
  · have first : 3 * index / 2 % 3 = 0 := by omega
    have second : (3 * index / 2 + 1) % 3 = 1 := by omega
    have same : 2 * (3 * index / 2 / 3) = index := by omega
    have shared : 2 * ((3 * index / 2 + 1) / 3) = index := by omega
    simp [entry, pack, even, first, second, same, shared]
    omega
  · have first : 3 * index / 2 % 3 = 1 := by omega
    have second : (3 * index / 2 + 1) % 3 = 2 := by omega
    have same : 2 * (3 * index / 2 / 3) + 1 = index := by omega
    have shared : 2 * ((3 * index / 2 + 1) / 3) + 1 = index := by omega
    simp [entry, pack, odd, first, second, same, shared]
    omega

theorem entry_set_same (table : Table) (index value : Nat) (small : value < 4096) :
    entry (setEntry table index value) index = value := by
  have low := (table (3 * index / 2)).isLt
  have high := (table (3 * index / 2 + 1)).isLt
  rcases Nat.mod_two_eq_zero_or_one index with even | odd
  · simp [entry, setEntry, even]
    omega
  · simp [entry, setEntry, odd]
    omega

theorem set_entry_far (table : Table) (index value : Nat) {byte : Nat}
    (first : byte ≠ 3 * index / 2) (second : byte ≠ 3 * index / 2 + 1) :
    setEntry table index value byte = table byte := by
  simp only [setEntry, if_neg first, if_neg second]

theorem entry_set_other (table : Table) {index other : Nat} (value : Nat)
    (different : other ≠ index) :
    entry (setEntry table index value) other = entry table other := by
  have low := (table (3 * other / 2)).isLt
  have high := (table (3 * other / 2 + 1)).isLt
  by_cases after : index % 2 = 0 ∧ other = index + 1
  · -- the shared byte is the first of `other`
    obtain ⟨even, rfl⟩ := after
    have first : 3 * (index + 1) / 2 = 3 * index / 2 + 1 := by omega
    have odd : (index + 1) % 2 = 1 := by omega
    have far := set_entry_far table index value
      (show 3 * (index + 1) / 2 + 1 ≠ 3 * index / 2 by omega) (by omega)
    simp only [entry, odd, far, Nat.one_ne_zero, if_false]
    simp [setEntry, first, even]
    omega
  · by_cases before : index % 2 = 1 ∧ other + 1 = index
    · -- the shared byte is the second of `other`
      obtain ⟨odd, rfl⟩ := before
      have second : 3 * (other + 1) / 2 = 3 * other / 2 + 1 := by omega
      have even : other % 2 = 0 := by omega
      have far := set_entry_far table (other + 1) value
        (show 3 * other / 2 ≠ 3 * (other + 1) / 2 by omega) (by omega)
      simp only [entry, even, far, if_true]
      simp [setEntry, second, odd]
      omega
    · exact entry_congr (set_entry_far table index value (by omega) (by omega))
        (set_entry_far table index value (by omega) (by omega))

end BootSector.Fat12
