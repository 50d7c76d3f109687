import BootSector.Chain
import BootSector.Fat12
import BootSector.RealMode
import Mathlib.Data.List.Range
import Mathlib.Logic.Function.Iterate

/-!
# The floppy image

What the 2880 sectors of an image mean to the loader: the table at sector 1
and the 224 directory entries from sector 19 on.
-/

namespace BootSector.Floppy

open RealMode

abbrev Disk := Nat → Byte

def fat1 (disk : Disk) : Fat12.Table := fun byte => disk (512 + byte)

def rootByte (disk : Disk) (entry offset : Nat) : Byte := disk (512 * 19 + 32 * entry + offset)

def loaderName : List Byte :=
  ['L', 'O', 'A', 'D', 'E', 'R', ' ', ' ', 'B', 'I', 'N'].map fun letter =>
    BitVec.ofNat 8 letter.toNat

def Named (disk : Disk) (entry : Nat) : Prop :=
  ∀ place < 11, rootByte disk entry place = loaderName.getD place 0

instance (disk : Disk) (entry : Nat) : Decidable (Named disk entry) :=
  inferInstanceAs (Decidable (∀ place < 11, _))

def firstCluster (disk : Disk) (entry : Nat) : Nat :=
  (wordOf (rootByte disk entry 0x1b) (rootByte disk entry 0x1a)).toNat

/-- The first of the 224 entries that has the loader's name. -/
structure FirstLoader (disk : Disk) (entry : Nat) : Prop where
  bound : entry < 224
  named : Named disk entry
  first : ∀ earlier < entry, ¬Named disk earlier

theorem FirstLoader.unique {disk : Disk} {entry entry' : Nat} (found : FirstLoader disk entry)
    (found' : FirstLoader disk entry') : entry = entry' := by
  rcases Nat.lt_trichotomy entry entry' with less | same | more
  · exact absurd found.named (found'.first _ less)
  · exact same
  · exact absurd found'.named (found.first _ more)

theorem exists_first_loader {disk : Disk} (listed : ∃ entry < 224, Named disk entry) :
    ∃ entry, FirstLoader disk entry := by
  refine ⟨Nat.find listed, (Nat.find_spec listed).1, (Nat.find_spec listed).2, ?_⟩
  intro earlier less named
  exact Nat.find_min listed less ⟨lt_trans less (Nat.find_spec listed).1, named⟩

theorem first_loader_or_missing (disk : Disk) :
    (∃ entry, FirstLoader disk entry) ∨ ∀ entry < 224, ¬Named disk entry := by
  by_cases listed : ∃ entry < 224, Named disk entry
  · exact .inl (exists_first_loader listed)
  · exact .inr fun entry bound named => listed ⟨entry, bound, named⟩

/-- The first slot of a root-directory sector that has the loader's name. -/
def loaderSlot (disk : Disk) (sector : Nat) : Option Nat :=
  (List.range 16).find? fun slot => Named disk (16 * sector + slot)

theorem loader_slot_eq_some {disk : Disk} {sector slot : Nat} : loaderSlot disk sector = some slot ↔
    Named disk (16 * sector + slot) ∧ slot < 16 ∧
      ∀ earlier < slot, ¬Named disk (16 * sector + earlier) := by
  simp only [loaderSlot, List.find?_range_eq_some, decide_eq_true_eq, List.mem_range,
    Bool.not_eq_true', decide_eq_false_iff_not]

theorem loader_slot_eq_none {disk : Disk} {sector : Nat} : loaderSlot disk sector = none ↔
    ∀ slot < 16, ¬Named disk (16 * sector + slot) := by
  simp only [loaderSlot, List.find?_range_eq_none, decide_eq_false_iff_not, Bool.not_eq_true']

/-- The clusters of a file: the first from its directory entry, each later one
from the table. -/
def fileCluster (disk : Disk) (entry position : Nat) : Nat :=
  (Fat12.entry (fat1 disk))^[position] (firstCluster disk entry)

theorem file_cluster_succ (disk : Disk) (entry position : Nat) :
    fileCluster disk entry (position + 1) =
      Fat12.entry (fat1 disk) (fileCluster disk entry position) :=
  Function.iterate_succ_apply' ..

theorem file_cluster_word (disk : Disk) (entry position : Nat) :
    fileCluster disk entry position < 65536 := by
  cases position with
  | zero => exact BitVec.isLt _
  | succ position =>
      rw [file_cluster_succ]
      exact lt_trans (Fat12.entry_lt _ _) (by decide)

theorem file_cluster_small {disk : Disk} {entry : Nat} (small : firstCluster disk entry < 4577)
    (position : Nat) : fileCluster disk entry position < 4577 := by
  cases position with
  | zero => exact small
  | succ position =>
      rw [file_cluster_succ]
      exact lt_trans (Fat12.entry_lt _ _) (by decide)

abbrev InData (cluster : Nat) : Prop := 2 ≤ cluster ∧ cluster ≤ 2848

/-- A file of `length` clusters, all of the data area, and what its last entry
of the table holds. -/
structure MarkedChain (disk : Disk) (entry length mark : Nat) : Prop where
  positive : 1 ≤ length
  inside : ∀ position < length, InData (fileCluster disk entry position)
  last : fileCluster disk entry length = mark

/-- The end mark the loader knows. -/
abbrev FileChain (disk : Disk) (entry length : Nat) : Prop := MarkedChain disk entry length 0xfff

theorem MarkedChain.ends {disk : Disk} {entry length mark : Nat}
    (chain : MarkedChain disk entry length mark) (beyond : 2848 < mark) :
    Chain.EndsAfter (Fat12.entry (fat1 disk)) mark (firstCluster disk entry) length where
  before := fun position bound reached => by
    have inside := (chain.inside position bound).2
    rw [fileCluster, reached] at inside
    omega
  mark := chain.last

/-- The first cluster of the loader, if there is one, and what the data area's
entries of FAT1 link to, FFFh apart, are all among `nodes`. -/
structure LinksWithin (nodes : Nat → Prop) (disk : Disk) : Prop where
  first : ∀ entry, FirstLoader disk entry → nodes (firstCluster disk entry)
  link : ∀ cluster, InData cluster →
    nodes (Fat12.entry (fat1 disk) cluster) ∨ Fat12.entry (fat1 disk) cluster = 0xfff

theorem LinksWithin.cluster {nodes : Nat → Prop} {disk : Disk} {entry position : Nat}
    (links : LinksWithin nodes disk) (found : FirstLoader disk entry)
    (inside : ∀ earlier < position, InData (fileCluster disk entry earlier))
    (more : fileCluster disk entry position ≠ 0xfff) : nodes (fileCluster disk entry position) := by
  cases position with
  | zero => exact links.first entry found
  | succ position =>
      rw [file_cluster_succ] at more ⊢
      exact (links.link _ (inside position (Nat.lt_succ_self position))).resolve_right more

section Images

def formatted (first : Nat) (entries : Nat → Nat) : Disk := fun address =>
  if 512 ≤ address ∧ address < 5120 then Fat12.pack entries (address - 512)
  else if 512 * 19 ≤ address ∧ address < 512 * 19 + 11 then loaderName.getD (address - 512 * 19) 0
  else if address = 512 * 19 + 0x1a then BitVec.ofNat 8 first
  else if address = 512 * 19 + 0x1b then BitVec.ofNat 8 (first / 256)
  else 0

theorem formatted_first_loader (first : Nat) (entries : Nat → Nat) :
    FirstLoader (formatted first entries) 0 where
  bound := by decide
  named := by
    intro place small
    simp only [rootByte, formatted]
    rw [if_neg (by omega), if_pos (by omega), Nat.mul_zero, Nat.add_zero, Nat.add_sub_cancel_left]
  first := fun earlier less => absurd less (Nat.not_lt_zero _)

theorem formatted_first_cluster {first : Nat} (entries : Nat → Nat) (word : first < 65536) :
    firstCluster (formatted first entries) 0 = first := by
  have low : rootByte (formatted first entries) 0 0x1a = BitVec.ofNat 8 first := by
    simp [rootByte, formatted]
  have high : rootByte (formatted first entries) 0 0x1b = BitVec.ofNat 8 (first / 256) := by
    simp [rootByte, formatted]
  rw [firstCluster, low, high, word_of_to_nat, BitVec.toNat_ofNat, BitVec.toNat_ofNat]
  omega

/-- The 3072 entries of a table packed into FAT1 are its entries. -/
theorem packed_entry {disk : Disk} {entries : Nat → Nat} {index : Nat}
    (packed : ∀ byte < 4608, fat1 disk byte = Fat12.pack entries byte) (bound : index < 3072)
    (small : entries index < 4096) : Fat12.entry (fat1 disk) index = entries index := by
  rw [← Fat12.entry_pack entries index small]
  exact Fat12.entry_congr (packed _ (by omega)) (packed _ (by omega))

theorem formatted_packed (first : Nat) (entries : Nat → Nat) :
    ∀ byte < 4608, fat1 (formatted first entries) byte = Fat12.pack entries byte := by
  intro byte inside
  simp only [fat1, formatted]
  rw [if_pos (by omega), Nat.add_sub_cancel_left]

theorem formatted_entry (first : Nat) {entries : Nat → Nat} {index : Nat} (bound : index < 3072)
    (small : entries index < 4096) :
    Fat12.entry (fat1 (formatted first entries)) index = entries index :=
  packed_entry (formatted_packed first entries) bound small

/-- An image whose loader has `length` clusters in a row, from cluster 2 on. -/
def sequential (length : Nat) : Disk :=
  formatted 2 fun index => if index = length + 1 then 0xfff else index + 1

theorem sequential_cluster {length position : Nat} (bound : length ≤ 2847)
    (within : position < length) : fileCluster (sequential length) 0 position = position + 2 := by
  induction position with
  | zero => exact formatted_first_cluster _ (by decide)
  | succ position ih =>
      rw [file_cluster_succ, ih (by omega), sequential, formatted_entry 2 (by omega)]
      · exact if_neg (by omega)
      · rw [if_neg (by omega)]
        omega

theorem sequential_chain {length : Nat} (positive : 1 ≤ length) (bound : length ≤ 2847) :
    FileChain (sequential length) 0 length where
  positive := positive
  inside := fun position within => by
    rw [sequential_cluster bound within]
    omega
  last := by
    obtain ⟨count, rfl⟩ := Nat.exists_eq_add_of_le' positive
    rw [file_cluster_succ, sequential_cluster bound (Nat.lt_succ_self count), sequential,
      formatted_entry 2 (by omega)]
    · exact if_pos rfl
    · rw [if_pos rfl]
      decide

/-- An image with the chain 2, 3, 4, and links to cluster 2 in the rest of the
table. -/
def chained : Disk :=
  formatted 2 fun index =>
    if index = 4 then 0xfff else if index = 2 ∨ index = 3 then index + 1 else 2

theorem chained_entry {index : Nat} (bound : index < 3072) : Fat12.entry (fat1 chained) index =
    if index = 4 then 0xfff else if index = 2 ∨ index = 3 then index + 1 else 2 := by
  refine formatted_entry 2 bound ?_
  split_ifs <;> omega

theorem chained_chain : FileChain chained 0 3 := by
  have first : fileCluster chained 0 0 = 2 := formatted_first_cluster _ (by decide)
  have second : fileCluster chained 0 1 = 3 := by
    rw [file_cluster_succ, first, chained_entry (by decide)]
    rfl
  have third : fileCluster chained 0 2 = 4 := by
    rw [file_cluster_succ, second, chained_entry (by decide)]
    rfl
  refine ⟨by decide, fun position within => ?_, ?_⟩
  · have three : position = 0 ∨ position = 1 ∨ position = 2 := by omega
    rcases three with rfl | rfl | rfl <;> omega
  · rw [file_cluster_succ, third, chained_entry (by decide)]
    rfl

theorem chained_links {nodes : Nat → Prop} (inside : ∀ cluster, InData cluster → nodes cluster) :
    LinksWithin nodes chained where
  first entry found := by
    obtain rfl := found.unique (formatted_first_loader 2 _)
    rw [chained, formatted_first_cluster _ (by decide)]
    exact inside 2 (by decide)
  link cluster data := by
    rw [chained_entry (by omega)]
    split_ifs
    · exact .inr rfl
    · exact .inl (inside _ (by omega))
    · exact .inl (inside 2 (by decide))

/-- The image with one entry of FAT1 replaced. -/
def setFat1 (disk : Disk) (cluster value : Nat) : Disk := fun address =>
  if 512 ≤ address ∧ address < 5120 then Fat12.setEntry (fat1 disk) cluster value (address - 512)
  else disk address

theorem set_fat1_entry (disk : Disk) (cluster value : Nat) {index : Nat} (bound : index < 3072) :
    Fat12.entry (fat1 (setFat1 disk cluster value)) index =
      Fat12.entry (Fat12.setEntry (fat1 disk) cluster value) index := by
  have same : ∀ byte < 4608, fat1 (setFat1 disk cluster value) byte =
      Fat12.setEntry (fat1 disk) cluster value byte := by
    intro byte inside
    simp only [fat1, setFat1]
    rw [if_pos (by omega), Nat.add_sub_cancel_left]
  exact Fat12.entry_congr (same _ (by omega)) (same _ (by omega))

theorem set_fat1_root_byte (disk : Disk) (cluster value entry offset : Nat) :
    rootByte (setFat1 disk cluster value) entry offset = rootByte disk entry offset := by
  simp only [rootByte, setFat1]
  rw [if_neg (by omega)]

theorem set_fat1_named (disk : Disk) (cluster value entry : Nat) :
    Named (setFat1 disk cluster value) entry ↔ Named disk entry := by
  simp only [Named, set_fat1_root_byte]

theorem set_fat1_first_loader {disk : Disk} {entry : Nat} (cluster value : Nat)
    (found : FirstLoader disk entry) : FirstLoader (setFat1 disk cluster value) entry where
  bound := found.bound
  named := (set_fat1_named ..).mpr found.named
  first := fun earlier less => mt (set_fat1_named ..).mp (found.first earlier less)

theorem set_fat1_first_cluster (disk : Disk) (cluster value entry : Nat) :
    firstCluster (setFat1 disk cluster value) entry = firstCluster disk entry := by
  simp only [firstCluster, set_fat1_root_byte]

theorem MarkedChain.remarked {disk : Disk} {entry length mark mark' : Nat}
    (chain : MarkedChain disk entry length mark) (beyond : 2848 < mark) {position : Nat}
    (within : position < length) :
    fileCluster (setFat1 disk (fileCluster disk entry (length - 1)) mark') entry position =
      fileCluster disk entry position := by
  induction position with
  | zero => exact set_fat1_first_cluster ..
  | succ position ih =>
      have inside := chain.inside position (by omega)
      have different : fileCluster disk entry position ≠ fileCluster disk entry (length - 1) :=
        (chain.ends beyond).distinct (by omega) (by omega)
      rw [file_cluster_succ, file_cluster_succ, ih (by omega),
        set_fat1_entry _ _ _ (lt_of_le_of_lt inside.2 (by decide)),
        Fat12.entry_set_other _ _ different]

theorem MarkedChain.set_mark {disk : Disk} {entry length mark : Nat}
    (chain : MarkedChain disk entry length mark) (mark' : Nat) (beyond : 2848 < mark)
    (small : mark' < 4096) :
    MarkedChain (setFat1 disk (fileCluster disk entry (length - 1)) mark') entry length mark' where
  positive := chain.positive
  inside := fun position within => by
    rw [chain.remarked beyond within]
    exact chain.inside position within
  last := by
    have positive := chain.positive
    have inside := chain.inside (length - 1) (by omega)
    have last := file_cluster_succ (setFat1 disk (fileCluster disk entry (length - 1)) mark')
      entry (length - 1)
    rw [Nat.sub_add_cancel positive] at last
    rw [last, chain.remarked beyond (by omega),
      set_fat1_entry _ _ _ (lt_of_le_of_lt inside.2 (by decide)), Fat12.entry_set_same _ _ _ small]

end Images

end BootSector.Floppy
