import BootSector.FileLoading

/-!
# End marks

FAT12 ends a chain with any of FF8h to FFFh. The loader compares with FFFh
alone; after any other mark it asks for a sector no floppy has, and retries.
-/

namespace BootSector.EndMarks

open RealMode Bios Program Floppy Execution Assertion Loader Refinement LoadFile FileLoading

variable {bios : Services} {disk : Disk} {entry : Config} {file length mark mark' : Nat}

/-- A BIOS that reads every sector of the disk and none beyond the last cylinder. -/
structure Conforms (bios : Services) (disk : Disk) : Prop where
  honours : Honours bios disk
  succeeds : Succeeds bios
  refuses : Refuses bios

theorem floppy_bios_conforms (disk : Disk) : Conforms (floppyBios disk fun _ => 0) disk :=
  ⟨floppy_bios_honours disk _, floppy_bios_succeeds disk, floppy_bios_refuses disk _⟩

/-- The run comes to the jump, and its reads in the loop are those given. -/
def LoadsExactly (bios : Services) (entry : Config) (reads : List Request) : Prop :=
  Reaches (step code bios) (fun config => ¬Ended config) entry (fun config =>
    config.machine.ip = fileLoaded ∧ dataReads config.log = reads)

theorem known_mark_loads (conforms : Conforms bios disk) (entered : Start.Entry entry)
    (found : FirstLoader disk file) (chain : FileChain disk file length) :
    LoadsExactly bios entry (fileReads disk file length) := by
  apply (file_ended conforms.honours conforms.succeeds entered found chain).mono (fun _ => id)
  intro config complete
  exact ⟨complete.atEnd.ip, complete.data_reads chain⟩

/-- The sector of an end mark is beyond the last cylinder. -/
theorem mark_cylinder (marks : 0xff8 ≤ mark ∧ mark ≤ 0xfff) (count : Nat) :
    80 ≤ (dataRequest mark count).cylinder := by
  simp only [dataRequest, Request.ofLba, dataSector]
  omega

theorem other_mark_stalls (conforms : Conforms bios disk) (entered : Start.Entry entry)
    (found : FirstLoader disk file) (chain : MarkedChain disk file length mark)
    (marks : 0xff8 ≤ mark ∧ mark ≤ 0xfff) (other : mark ≠ 0xfff) :
    Forever (step code bios) (fun config => ¬Ended config) entry := by
  have small := chain_small chain
  have more : ∀ earlier < length, fileCluster disk file (earlier + 1) ≠ 0xfff := by
    intro earlier less
    rcases Nat.lt_or_ge (earlier + 1) length with before | last
    · have inside := chain.inside (earlier + 1) before
      omega
    · have same : earlier + 1 = length := by omega
      rwa [same, chain.last]
  have reaches := path_reached conforms.honours conforms.succeeds entered found small
    (fun earlier less => more earlier (by omega)) (fun turn within => (chain.inside turn within).2)
  refine (reaches.mono (fun _ good => good.2.1) (fun _ => id)).forever ?_
  rintro config ⟨ax, dx, sim, -⟩
  have phase := loading_phase found small more
  rw [chain.last] at phase
  have place := sim.place_at phase
  have refused : ∀ log machine, machine.isRead → machine.request = dataRequest mark length →
      (bios.disk log machine).carry = true := by
    intro log machine reads same
    exact conforms.refuses log machine reads (same ▸ mark_cylinder marks length)
  have stays : Forever (step code bios) (Good 0x7bf0 .any) config := by
    refine load_refused conforms.honours trivial refused place.2 ?_ trivial
    simp only [dataSector]
    omega
  exact stays.mono (fun _ good => good.2.1)

theorem loads_only_known (found : FirstLoader disk file)
    (chain : MarkedChain disk file length mark) (marks : 0xff8 ≤ mark ∧ mark ≤ 0xfff)
    {reads : List Request} (conforms : Conforms bios disk) (entered : Start.Entry entry)
    (loads : LoadsExactly bios entry reads) : mark = 0xfff := by
  by_contra other
  obtain ⟨count, _, ip, _⟩ := loads
  exact other_mark_stalls conforms entered found chain marks other count (.inl ip)

/-- Of the eight end marks only FFFh ends the load. -/
theorem end_marks_alike_iff (found : FirstLoader disk file)
    (chain : MarkedChain disk file length mark) (marks : 0xff8 ≤ mark ∧ mark ≤ 0xfff)
    (marks' : 0xff8 ≤ mark' ∧ mark' ≤ 0xfff) :
    (∀ bios bios' entry entry', Conforms bios disk →
      Conforms bios' (setFat1 disk (fileCluster disk file (length - 1)) mark') →
      Start.Entry entry → Start.Entry entry' →
        LoadsExactly bios entry (fileReads disk file length) ∧
          LoadsExactly bios' entry' (fileReads disk file length)) ↔
      mark = 0xfff ∧ mark' = 0xfff := by
  have beyond : 2848 < mark := by omega
  have found' := set_fat1_first_loader (fileCluster disk file (length - 1)) mark' found
  have chain' := chain.set_mark mark' beyond (by omega)
  constructor
  · intro alike
    have conforms := floppy_bios_conforms disk
    have conforms' := floppy_bios_conforms
      (setFat1 disk (fileCluster disk file (length - 1)) mark')
    have entered := Start.power_on_entry fun _ => 0
    obtain ⟨loads, loads'⟩ := alike _ _ _ _ conforms conforms' entered entered
    exact ⟨loads_only_known found chain marks conforms entered loads,
      loads_only_known found' chain' marks' conforms' entered loads'⟩
  · rintro ⟨rfl, rfl⟩ bios bios' entry entry' conforms conforms' entered entered'
    refine ⟨known_mark_loads conforms entered found chain, ?_⟩
    have reads : fileReads (setFat1 disk (fileCluster disk file (length - 1)) 0xfff) file length =
        fileReads disk file length := by
      apply List.map_congr_left
      intro position listed
      rw [chain.remarked beyond (List.mem_range.mp listed)]
    rw [← reads]
    exact known_mark_loads conforms' entered' found' chain'

theorem end_marks_alike_three_sectors :
    (∀ bios bios' entry entry', Conforms bios (sequential 3) →
      Conforms bios' (setFat1 (sequential 3) (fileCluster (sequential 3) 0 (3 - 1)) 0xff8) →
      Start.Entry entry → Start.Entry entry' →
        LoadsExactly bios entry (fileReads (sequential 3) 0 3) ∧
          LoadsExactly bios' entry' (fileReads (sequential 3) 0 3)) ↔
      0xfff = 0xfff ∧ 0xff8 = 0xfff :=
  end_marks_alike_iff (formatted_first_loader _ _) (sequential_chain (by decide) (by decide))
    (by decide) (by decide)

/-- The image of a one-cluster loader with its mark set to FF8h. -/
theorem mark_ff8_never_ends :
    FirstLoader (setFat1 (sequential 1) 2 0xff8) 0 ∧
      MarkedChain (setFat1 (sequential 1) 2 0xff8) 0 1 0xff8 ∧
      Conforms (floppyBios (setFat1 (sequential 1) 2 0xff8) fun _ => 0)
        (setFat1 (sequential 1) 2 0xff8) ∧
      ∀ reads, ¬LoadsExactly (floppyBios (setFat1 (sequential 1) 2 0xff8) fun _ => 0)
        (Start.powerOn fun _ => 0) reads := by
  have found : FirstLoader (setFat1 (sequential 1) 2 0xff8) 0 :=
    set_fat1_first_loader _ _ (formatted_first_loader _ _)
  have chain : MarkedChain (setFat1 (sequential 1) 2 0xff8) 0 1 0xff8 := by
    have plain : FileChain (sequential 1) 0 1 := sequential_chain (by decide) (by decide)
    have marked := plain.set_mark 0xff8 (by decide) (by decide)
    rwa [sequential_cluster (by decide) (by decide)] at marked
  refine ⟨found, chain, floppy_bios_conforms _, fun reads loads => ?_⟩
  have known := loads_only_known found chain (by decide) (floppy_bios_conforms _)
    (Start.power_on_entry _) loads
  exact absurd known (by decide)

end BootSector.EndMarks
