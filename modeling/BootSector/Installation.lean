import BootSector.PowerOn
import Mathlib.Data.List.GetD

/-!
# A loader on the diskette

A FAT12 diskette with a file put on it under the loader's name, in an entry of
the root directory that no other of that name comes before: any content, in any
clusters, in any order. What the boot sector loads is that content again.
-/

namespace BootSector.Installation

open RealMode Bios Program Floppy Execution FileLoading LoadSegment

section Disks

structure Storable (clusters : List Nat) : Prop where
  positive : 1 ≤ clusters.length
  inside : ∀ cluster ∈ clusters, InData cluster
  distinct : clusters.Nodup

def link (clusters : List Nat) (cluster : Nat) : Nat :=
  clusters.getD (clusters.idxOf cluster + 1) 0xfff

/-- The entries of FAT1 with the file's links among them. -/
def linked (disk : Disk) (clusters : List Nat) (index : Nat) : Nat :=
  if index ∈ clusters then link clusters index else Fat12.entry (fat1 disk) index

/-- Name, archive bit, first cluster and size. -/
def directoryEntry (first size offset : Nat) : Byte :=
  if offset < 11 then loaderName.getD offset 0
  else if offset = 0x0b then 0x20
  else if offset = 0x1a then BitVec.ofNat 8 first
  else if offset = 0x1b then BitVec.ofNat 8 (first / 256)
  else if 0x1c ≤ offset then BitVec.ofNat 8 (size / 256 ^ (offset - 0x1c))
  else 0

/-- An entry of the root directory that the search comes to. -/
structure Available (disk : Disk) (slot : Nat) : Prop where
  bound : slot < 224
  first : ∀ earlier < slot, ¬Named disk earlier

/-- The file in a slot of the root directory. -/
def install (disk : Disk) (slot : Nat) (clusters : List Nat) (content : Nat → Byte) : Disk :=
  fun address =>
  if 512 ≤ address ∧ address < 5120 then
    Fat12.pack (linked disk clusters) (address - 512)
  else if 512 * 19 + 32 * slot ≤ address ∧ address < 512 * 19 + 32 * slot + 32 then
    directoryEntry (clusters.getD 0 0xfff) (512 * clusters.length)
      (address - (512 * 19 + 32 * slot))
  else if 33 ≤ address / 512 ∧ address / 512 - 31 ∈ clusters then
    content (512 * clusters.idxOf (address / 512 - 31) + address % 512)
  else disk address

end Disks

variable {bios : Services} {disk : Disk} {entry : Config} {clusters : List Nat}
  {content : Nat → Byte} {position slot : Nat}

section Chains

theorem Storable.bound (storable : Storable clusters) (position : Nat) :
    clusters.getD position 0xfff < 4096 := by
  rcases Nat.lt_or_ge position clusters.length with within | beyond
  · rw [List.getD_eq_getElem _ _ within]
    have inside := storable.inside _ (List.getElem_mem within)
    omega
  · rw [List.getD_eq_default _ _ beyond]
    decide

theorem install_linked (storable : Storable clusters) {index : Nat} (within : index < 3072) :
    Fat12.entry (fat1 (install disk slot clusters content)) index = linked disk clusters index := by
  apply packed_entry _ within
  · rw [linked]
    split_ifs
    · exact storable.bound _
    · exact Fat12.entry_lt _ _
  · intro byte inside
    simp only [fat1, install]
    rw [if_pos (by omega), Nat.add_sub_cancel_left]

theorem install_root_byte {offset : Nat} (within : offset < 32) :
    rootByte (install disk slot clusters content) slot offset =
      directoryEntry (clusters.getD 0 0xfff) (512 * clusters.length) offset := by
  simp only [rootByte, install]
  rw [if_neg (by omega), if_pos (by omega), Nat.add_sub_cancel_left]

theorem install_root_before (available : Available disk slot) {earlier offset : Nat}
    (before : earlier < slot) (within : offset < 32) :
    rootByte (install disk slot clusters content) earlier offset =
      rootByte disk earlier offset := by
  have bound := available.bound
  simp only [rootByte, install]
  rw [if_neg (by omega), if_neg (by omega), if_neg (by omega)]

theorem install_first_loader (available : Available disk slot) :
    FirstLoader (install disk slot clusters content) slot where
  bound := available.bound
  named := by
    intro place small
    rw [install_root_byte (by omega), directoryEntry, if_pos small]
  first := by
    intro earlier before named
    refine available.first earlier before fun place small => ?_
    rw [← install_root_before available before (by omega)]
    exact named place small

theorem install_first_cluster (storable : Storable clusters) :
    firstCluster (install disk slot clusters content) slot = clusters.getD 0 0xfff := by
  have bound := storable.bound 0
  have low : ∀ first size, directoryEntry first size 0x1a = BitVec.ofNat 8 first :=
    fun _ _ => rfl
  have high : ∀ first size, directoryEntry first size 0x1b = BitVec.ofNat 8 (first / 256) :=
    fun _ _ => rfl
  rw [firstCluster, install_root_byte (by decide), install_root_byte (by decide), low, high,
    word_of_to_nat, BitVec.toNat_ofNat, BitVec.toNat_ofNat]
  omega

theorem install_cluster (storable : Storable clusters) (within : position ≤ clusters.length) :
    fileCluster (install disk slot clusters content) slot position =
      clusters.getD position 0xfff := by
  induction position with
  | zero => exact install_first_cluster storable
  | succ position ih =>
      have before : position < clusters.length := within
      have member : clusters[position] ∈ clusters := List.getElem_mem before
      have inside := storable.inside _ member
      have place : clusters.idxOf clusters[position] = position :=
        storable.distinct.idxOf_getElem position before
      rw [file_cluster_succ, ih before.le, List.getD_eq_getElem _ _ before,
        install_linked storable (by omega), linked, if_pos member, link, place]

theorem install_chain (storable : Storable clusters) :
    FileChain (install disk slot clusters content) slot clusters.length where
  positive := storable.positive
  inside := fun position within => by
    rw [install_cluster storable within.le, List.getD_eq_getElem _ _ within]
    exact storable.inside _ (List.getElem_mem within)
  last := by
    rw [install_cluster storable (le_refl _), List.getD_eq_default _ _ (le_refl _)]

theorem install_sector (available : Available disk slot) (storable : Storable clusters)
    (within : position < clusters.length) {index : Nat} (bound : index < 512) :
    install disk slot clusters content
        (512 * (fileCluster (install disk slot clusters content) slot position + 31) + index) =
      content (512 * position + index) := by
  have small := available.bound
  have member : clusters[position] ∈ clusters := List.getElem_mem within
  have inside := storable.inside _ member
  have place : clusters.idxOf clusters[position] = position :=
    storable.distinct.idxOf_getElem position within
  rw [install_cluster storable within.le, List.getD_eq_getElem _ _ within]
  have sector : (512 * (clusters[position] + 31) + index) / 512 = clusters[position] + 31 := by
    omega
  have offset : (512 * (clusters[position] + 31) + index) % 512 = index := by omega
  rw [install, if_neg (by omega), if_neg (by omega), sector, Nat.add_sub_cancel, offset,
    if_pos ⟨by omega, member⟩, place]

end Chains

section RoundTrip

/-- What is in the load segment: each block has the last part of the content
that went there, and a content of at most 64 KiB is there as a whole. -/
structure ContentLoaded (length : Nat) (content : Nat → Byte) (config : Config) : Prop where
  blocks : ∀ block < 128, ∀ turn, lastTurn length block = some turn → ∀ index < 512,
    config.machine.memory (0x10000 + 512 * block + index) = content (512 * turn + index)
  whole : length ≤ 128 → ∀ index < 512 * length,
    config.machine.memory (0x10000 + index) = content index

theorem last_turn_lt {length block turn : Nat} (last : lastTurn length block = some turn) :
    turn < length := by
  rw [lastTurn] at last
  split_ifs at last
  have same := Option.some.inj last
  omega

theorem content_loaded {config : Config} (available : Available disk slot)
    (storable : Storable clusters)
    (loaded : SegmentLoaded (install disk slot clusters content) slot clusters.length entry
      config) :
    ContentLoaded clusters.length content config := by
  have blocks : ∀ block < 128, ∀ turn, lastTurn clusters.length block = some turn →
      ∀ index < 512,
        config.machine.memory (0x10000 + 512 * block + index) = content (512 * turn + index) := by
    intro block bound turn last index within
    rw [loaded.blocks block bound index within, last]
    exact install_sector available storable (last_turn_lt last) within
  refine ⟨blocks, fun short index within => ?_⟩
  have turn : lastTurn clusters.length (index / 512) = some (index / 512) := by
    have once : (clusters.length - 1 - index / 512) / 128 = 0 := by omega
    rw [lastTurn, if_pos (by omega), once, Nat.mul_zero, Nat.add_zero]
  have here := blocks (index / 512) (by omega) (index / 512) turn (index % 512) (by omega)
  rwa [Nat.add_assoc, Nat.div_add_mod] at here

/-- A file put on a diskette that lists no other of its name before it comes
back: whatever the content, and in whatever clusters. -/
theorem installed_loaded (available : Available disk slot) (storable : Storable clusters)
    (honours : Honours bios (install disk slot clusters content)) (succeeds : Succeeds bios)
    (entered : Start.Entry entry) :
    Reaches (step code bios) (fun config => ¬InLoader config) entry (fun config =>
      InLoader config ∧ ContentLoaded clusters.length content config) := by
  refine (file_entered honours succeeds entered (install_first_loader available)
    (install_chain storable)).mono (fun _ => id) ?_
  rintro config ⟨before, complete, jumped⟩
  have loaded :=
    content_loaded available storable (complete_segment (install_chain storable) complete)
  refine ⟨⟨jumped.cs, jumped.ip⟩, ?_, ?_⟩
  · rw [jumped.memory]
    exact loaded.blocks
  · rw [jumped.memory]
    exact loaded.whole

/-- In the slot that `LOADER.BIN` has on boot.img, in three clusters out of
order. -/
theorem scattered_loaded :
    Reaches (step code (floppyBios (install PowerOn.bootImg 1 [700, 3, 2848] fun index =>
        BitVec.ofNat 8 index) fun _ => 0)) (fun config => ¬InLoader config)
      (Start.powerOn fun _ => 0) (fun config => InLoader config ∧
        ContentLoaded 3 (fun index => BitVec.ofNat 8 index) config) :=
  installed_loaded ⟨by decide, PowerOn.boot_img_first_loader.first⟩
    ⟨by decide, by decide, by decide⟩ (floppy_bios_honours _ _) (floppy_bios_succeeds _)
    (Start.power_on_entry _)

end RoundTrip

end BootSector.Installation
