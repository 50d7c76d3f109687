import BootSector.Outcomes

/-!
# What on the disk matters

A boot depends on the root directory and the first FAT. The second FAT, the
boot sector's copy on the disk and all data sectors are only loaded or left
alone; they have no say in what is read or where the boot ends.
-/

namespace BootSector.Tables

open RealMode Bios Program Floppy Execution Assertion Loader FileLoading EndMarks Outcomes

variable {bios bios' : Services} {disk disk' : Disk} {entry entry' config : Config}
  {file position : Nat}

structure SameTables (disk disk' : Disk) : Prop where
  fat : ∀ byte < 512 * 9, disk' (512 + byte) = disk (512 + byte)
  root : ∀ byte < 512 * 14, disk' (512 * 19 + byte) = disk (512 * 19 + byte)

namespace SameTables

variable (same : SameTables disk disk')

include same

theorem root_byte {entry offset : Nat} (bound : entry < 224) (small : offset < 32) :
    rootByte disk' entry offset = rootByte disk entry offset := by
  rw [rootByte, rootByte, Nat.add_assoc, same.root _ (by omega)]

theorem named {entry : Nat} (bound : entry < 224) : Named disk' entry ↔ Named disk entry := by
  constructor
  · intro named place within
    rw [← same.root_byte bound (by omega)]
    exact named place within
  · intro named place within
    rw [same.root_byte bound (by omega)]
    exact named place within

theorem first_loader : FirstLoader disk' file ↔ FirstLoader disk file := by
  constructor
  · rintro ⟨bound, named, first⟩
    exact ⟨bound, (same.named bound).mp named,
      fun earlier less => mt (same.named (less.trans bound)).mpr (first earlier less)⟩
  · rintro ⟨bound, named, first⟩
    exact ⟨bound, (same.named bound).mpr named,
      fun earlier less => mt (same.named (less.trans bound)).mp (first earlier less)⟩

theorem first_cluster (bound : file < 224) : firstCluster disk' file = firstCluster disk file := by
  rw [firstCluster, firstCluster, same.root_byte bound (by decide),
    same.root_byte bound (by decide)]

theorem fat_entry {cluster : Nat} (inside : cluster ≤ 2848) :
    Fat12.entry (fat1 disk') cluster = Fat12.entry (fat1 disk) cluster := by
  apply Fat12.entry_congr
  · exact same.fat _ (by omega)
  · exact same.fat _ (by omega)

theorem file_cluster (bound : file < 224)
    (inside : ∀ earlier < position, fileCluster disk file earlier ≤ 2848) :
    fileCluster disk' file position = fileCluster disk file position := by
  induction position with
  | zero => exact same.first_cluster bound
  | succ position ih =>
      rw [file_cluster_succ, file_cluster_succ, ih fun earlier less => inside earlier (by omega),
        same.fat_entry (inside position (by omega))]

theorem leaving_eq (bound : file < 224) : leaving disk' file = leaving disk file := by
  cases left : leaving disk file with
  | none =>
      have inside := inside_of_leaving_none left
      simp only [leaving, List.find?_range_eq_none, Bool.not_eq_true', decide_eq_false_iff_not,
        Nat.not_lt]
      intro position _
      rw [same.file_cluster bound fun earlier _ => inside earlier]
      exact inside position
  | some position =>
      obtain ⟨beyond, early, inside⟩ := leaving_eq_some.mp left
      refine leaving_eq_some.mpr ⟨?_, early, fun earlier less => ?_⟩
      · rwa [same.file_cluster bound inside]
      · rw [same.file_cluster bound fun prior within => inside prior (by omega)]
        exact inside earlier less

theorem file_outcome (bound : file < 224) : fileOutcome disk' file = fileOutcome disk file := by
  rw [fileOutcome, fileOutcome, same.first_cluster bound, same.leaving_eq bound]
  cases left : leaving disk file with
  | none => rfl
  | some position =>
      obtain ⟨-, -, inside⟩ := leaving_eq_some.mp left
      simp only [same.file_cluster bound inside]

theorem boot_outcome : bootOutcome disk' = bootOutcome disk := by
  rcases first_loader_or_missing disk with ⟨file, found⟩ | missing
  · rw [outcome_of_found found, outcome_of_found (same.first_loader.mpr found),
      same.file_outcome found.bound]
  · rw [outcome_of_missing missing,
      outcome_of_missing fun entry bound => mt (same.named bound).mp (missing entry bound)]

theorem boot_log (bound : file < 224) {turns : Nat}
    (inside : ∀ earlier < turns, fileCluster disk file earlier ≤ 2848) (ax dx : Word) :
    bootLog disk' file turns ax dx = bootLog disk file turns ax dx := by
  have turn : loopLog disk' file turns = loopLog disk file turns := by
    apply List.flatMap_congr
    intro position listed
    have within := List.mem_range.mp listed
    rw [same.file_cluster bound fun earlier less => inside earlier (by omega)]
  rw [bootLog, bootLog, turn]

theorem refused_read (bound : file < 224)
    (inside : ∀ earlier < position, fileCluster disk file earlier ≤ 2848) :
    refusedRead disk' file position = refusedRead disk file position := by
  rw [refusedRead, refusedRead, same.file_cluster bound inside]

theorem stalls {count : Nat} (inside : ∀ earlier < position, fileCluster disk file earlier ≤ 2848)
    (stalls : Stalls bios disk' entry file position count) :
    Stalls bios disk entry file position count := by
  have found := same.first_loader.mp stalls.found
  have refused := same.refused_read found.bound inside
  obtain ⟨ax, dx, log⟩ := stalls.log
  rw [same.boot_log found.bound inside] at log
  exact
    { found := found
      beyond := by rw [← same.file_cluster found.bound inside]; exact stalls.beyond
      log := ⟨ax, dx, log⟩
      only := refused ▸ stalls.only
      endless := refused ▸ stalls.endless }

theorem realises (realised : Realises bios disk' entry (bootOutcome disk)) :
    Realises bios disk entry (bootOutcome disk) := by
  have inside : ∀ {file earlier}, FirstLoader disk file → (bootOutcome disk).Passes earlier →
      fileCluster disk file earlier ≤ 2848 := fun found passes => passes_inside found passes
  cases outcome : bootOutcome disk with
  | missing =>
      rw [outcome] at realised
      refine RestsIn.mono realised ?_
      rintro config ⟨sound, cs, ip, unnamed, log⟩
      exact ⟨sound, cs, ip, fun file bound => mt (same.named bound).mpr (unnamed file bound), log⟩
  | divideError =>
      rw [outcome] at realised
      refine RestsIn.mono realised ?_
      rintro config ⟨fault, file, ax, dx, found', large, log⟩
      have found := same.first_loader.mp found'
      have first := same.first_cluster found.bound
      rw [same.boot_log found.bound (fun _ less => absurd less (Nat.not_lt_zero _)), first] at log
      exact ⟨fault, file, ax, dx, found, first ▸ large, log⟩
  | loaded length =>
      rw [outcome] at realised inside
      refine RestsIn.mono realised ?_
      rintro config ⟨sound, entered, file, ax, dx, found', log⟩
      have found := same.first_loader.mp found'
      rw [same.boot_log found.bound fun _ less => inside found less] at log
      exact ⟨sound, entered, file, ax, dx, found, log⟩
  | stalled position =>
      rw [outcome] at realised inside
      obtain ⟨file, count, stalls⟩ := realised
      have found := same.first_loader.mp stalls.found
      exact ⟨file, count, same.stalls (fun _ less => inside found less) stalls⟩
  | looping =>
      rw [outcome] at realised inside
      obtain ⟨file, found', turns⟩ := realised
      have found := same.first_loader.mp found'
      refine ⟨file, found, fun more => ?_⟩
      obtain ⟨count, ax, dx, log⟩ := turns more
      rw [same.boot_log found.bound fun _ _ => inside found trivial] at log
      exact ⟨count, ax, dx, log⟩

end SameTables

/-- Two disks with the same root directory and first FAT boot alike, with the
same requests and the same text, whichever BIOS serves them. -/
theorem tables_decide (same : SameTables disk disk') (conforms : Conforms bios disk)
    (conforms' : Conforms bios' disk') (entered : Start.Entry entry)
    (entered' : Start.Entry entry') (outcome : Outcome) :
    Realises bios disk entry outcome ↔ Realises bios' disk entry' outcome := by
  have realised' : Realises bios' disk entry' (bootOutcome disk) := by
    apply same.realises
    rw [← same.boot_outcome]
    exact boot_realises conforms' entered'
  constructor
  · intro realised
    rwa [realises_unique realised (boot_realises conforms entered)]
  · intro realised
    rw [realises_unique realised realised']
    exact boot_realises conforms entered

/-- Formatting the disk with the image in its boot sector changes nothing. -/
theorem boot_sector_no_matter :
    Realises (floppyBios (sequential 3) fun _ => 0) (sequential 3) (Start.powerOn fun _ => 0)
      (.loaded 3) ↔
    Realises (floppyBios (fun address =>
        if address < 512 then imageByte address else sequential 3 address) fun _ => 0)
      (sequential 3) (Start.powerOn fun _ => 0) (.loaded 3) := by
  have same : SameTables (sequential 3)
      (fun address => if address < 512 then imageByte address else sequential 3 address) :=
    ⟨fun _ _ => if_neg (by omega), fun _ _ => if_neg (by omega)⟩
  exact tables_decide same (floppy_bios_conforms _) (floppy_bios_conforms _)
    (Start.power_on_entry _) (Start.power_on_entry _) _

end BootSector.Tables
