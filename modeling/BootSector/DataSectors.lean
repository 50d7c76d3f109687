import BootSector.FileLoading

/-!
# Which sectors are loaded

The loader adds 31 to every cluster it is linked to and checks none of them. A
chain that comes to a free entry, or an empty file, has it load sector 31 of
the root directory; nothing else on a well-formed table takes it out of the
data area.
-/

namespace BootSector.DataSectors

open RealMode Bios Program Floppy Execution Assertion Loader Refinement LoadFile FileLoading

variable {bios : Services} {disk : Disk} {entry : Config} {file position : Nat}

/-- The reads issued from `GoOnLoadingFile` name sectors of the data area. -/
def LoadsData (config : Config) : Prop :=
  ∀ call request failed, .read call request failed ∈ config.log → call.back = loadReturn →
    33 ≤ request.lba ∧ request.lba < 2880

/-- The file is empty, or its chain runs into a free cluster. -/
def ComesToFree (disk : Disk) (file : Nat) : Prop :=
  Chain.Visits (Fat12.entry (fat1 disk)) 0xfff (firstCluster disk file) 0

def FreeOrData (cluster : Nat) : Prop := cluster = 0 ∨ InData cluster

theorem used_inside (links : LinksWithin FreeOrData disk) (found : FirstLoader disk file)
    (more : ∀ earlier < position, fileCluster disk file (earlier + 1) ≠ 0xfff)
    (used : ∀ earlier ≤ position, fileCluster disk file earlier ≠ 0) :
    InData (fileCluster disk file position) := by
  induction position using Nat.strongRecOn with
  | ind position ih =>
      have before : ∀ earlier < position, InData (fileCluster disk file earlier) :=
        fun earlier less => ih earlier less (fun prior within => more prior (by omega))
          (fun prior within => used prior (by omega))
      have goes : fileCluster disk file position ≠ 0xfff := by
        cases position with
        | zero =>
            intro marked
            have first : firstCluster disk file = 0xfff := marked
            rcases links.first file found with free | inside <;> omega
        | succ position => exact more position (Nat.lt_succ_self position)
      exact (links.cluster found before goes).resolve_left (used position (le_refl position))

theorem full_inside (links : LinksWithin FreeOrData disk) (found : FirstLoader disk file)
    (full : ¬ComesToFree disk file)
    (more : ∀ earlier < position, fileCluster disk file (earlier + 1) ≠ 0xfff) :
    InData (fileCluster disk file position) := by
  refine used_inside links found more (fun earlier within free => full ⟨earlier, ?_, free⟩)
  exact fun prior less => more prior (by omega)

theorem phase_loads_data (links : LinksWithin FreeOrData disk)
    (full : ∀ file, FirstLoader disk file → ¬ComesToFree disk file) {phase : Phase}
    (valid : phase.Valid disk) {read : Call × Request} (listed : read ∈ phase.reads)
    (loading : read.1.back = loadReturn) : 33 ≤ read.2.lba ∧ read.2.lba < 2880 := by
  rcases Phase.reads_cases listed with ⟨sector, _, _, rfl⟩ | ⟨cluster, count, rfl, _, rfl⟩ |
    ⟨cluster, count, _, _, rfl⟩
  · exact absurd loading (by simp [Search.rootCall, loadReturn])
  · obtain ⟨file, found, rfl, more⟩ := valid
    have inside := full_inside links found (full file found) more
    simp only [dataRequest, Request.lba_of_lba, data_sector_small
      (lt_of_le_of_lt inside.2 (by decide : 2848 < 4577))]
    omega
  · exact absurd loading (by simp [GetFATEntry.fatCall, loadReturn])

theorem full_loads_data (honours : Honours bios disk) (entered : Start.Entry entry)
    (links : LinksWithin FreeOrData disk)
    (full : ∀ file, FirstLoader disk file → ¬ComesToFree disk file) :
    Forever (step code bios) LoadsData entry := by
  have safe : Forever (step code bios) (Safe 0x7bf0 ⟨fun call request =>
      call.back = loadReturn → 33 ≤ request.lba ∧ request.lba < 2880, fun _ => True⟩) entry :=
    run_safe honours entered (fun position => permits_reads
      (fun _ listed => phase_loads_data links full (phase_at_valid disk position) listed))
  intro count call request failed listed loading
  exact RunSafety.reads_allowed entered safe count call request failed listed loading

/-- A free cluster has the loader read sector 31. -/
theorem free_loaded (honours : Honours bios disk) (succeeds : Succeeds bios)
    (entered : Start.Entry entry) (links : LinksWithin FreeOrData disk)
    (found : FirstLoader disk file) (free : ComesToFree disk file) :
    ∃ count, ¬LoadsData ((step code bios)^[count] entry) := by
  classical
  obtain ⟨more, last⟩ := Nat.find_spec free
  have inside : ∀ turn < Nat.find free, InData (fileCluster disk file turn) := by
    intro turn less
    refine used_inside links found (fun earlier within => more earlier (by omega)) ?_
    exact fun earlier within free' =>
      Nat.find_min free (by omega) ⟨fun prior less => more prior (by omega), free'⟩
  have small : firstCluster disk file < 4577 := by
    rcases links.first file found with zero | data <;> omega
  have present : ∀ turn < Nat.find free + 1, fileCluster disk file turn ≤ 2848 := by
    intro turn less
    rcases Nat.lt_succ_iff_lt_or_eq.mp less with before | rfl
    · exact (inside turn before).2
    · exact le_of_eq_of_le last (by decide)
  have reaches := path_reached honours succeeds entered found small more present
  obtain ⟨count, ax, dx, _, log⟩ := reaches.exists_iterate
  refine ⟨count, fun loads => ?_⟩
  have listed : .read (dataCall 0) (dataRequest 0 (Nat.find free)) false ∈
      ((step code bios)^[count] entry).log := by
    rw [log, loading_log found small more, loop_log_succ, fileCluster, last]
    simp [turnLog]
  have sector := (loads _ _ _ listed rfl).1
  rw [dataRequest, Request.lba_of_lba] at sector
  exact absurd sector (by decide)

/-- On a table of free entries, links into the data area and FFFh, the loader
keeps to the data area exactly if its chain never comes to a free cluster. -/
theorem loads_data_iff (links : LinksWithin FreeOrData disk) :
    (∀ bios entry, Honours bios disk → Start.Entry entry →
      Forever (step code bios) LoadsData entry) ↔
      ∀ file, FirstLoader disk file → ¬ComesToFree disk file := by
  constructor
  · intro loads file found free
    obtain ⟨count, outside⟩ := free_loaded (floppy_bios_honours disk fun _ => 0)
      (floppy_bios_succeeds disk) (Start.power_on_entry fun _ => 0) links found free
    exact outside (loads _ _ (floppy_bios_honours disk _) (Start.power_on_entry _) count)
  · intro full bios entry honours entered
    exact full_loads_data honours entered links full

section EmptyImage

def empty : Disk := formatted 0 fun _ => 0

theorem empty_links : LinksWithin FreeOrData empty where
  first := fun file found => by
    obtain rfl := found.unique (formatted_first_loader 0 _)
    exact .inl (formatted_first_cluster _ (by decide))
  link := fun cluster inside =>
    .inl (.inl (formatted_entry 0 (lt_of_le_of_lt inside.2 (by decide)) (by decide)))

theorem chained_never_free : ¬ComesToFree chained 0 := by
  rintro ⟨position, before, free⟩
  have visited : fileCluster chained 0 position = 0 := free
  rcases Nat.lt_trichotomy position 3 with within | rfl | beyond
  · have inside := chained_chain.inside position within
    omega
  · rw [chained_chain.last] at visited
    exact absurd visited (by decide)
  · exact before 2 (by omega) chained_chain.last

theorem chained_loads_data_empty_not :
    (∀ bios entry, Honours bios chained → Start.Entry entry →
      Forever (step code bios) LoadsData entry) ∧
    ¬∀ bios entry, Honours bios empty → Start.Entry entry →
      Forever (step code bios) LoadsData entry := by
  constructor
  · refine (loads_data_iff (chained_links fun _ => .inr)).mpr fun file found => ?_
    obtain rfl := found.unique (formatted_first_loader 2 _)
    exact chained_never_free
  · rw [loads_data_iff empty_links]
    exact fun full => full 0 (formatted_first_loader _ _)
      ⟨0, fun _ less => absurd less (Nat.not_lt_zero _), formatted_first_cluster _ (by decide)⟩

/-- An empty loader has sector 31 loaded. -/
theorem empty_loads_directory : LinksWithin FreeOrData empty ∧ FirstLoader empty 0 ∧
    firstCluster empty 0 = 0 ∧
    ∃ count, ¬LoadsData ((step code (floppyBios empty fun _ => 0))^[count]
      (Start.powerOn fun _ => 0)) := by
  have found : FirstLoader empty 0 := formatted_first_loader _ _
  have first : firstCluster empty 0 = 0 := formatted_first_cluster _ (by decide)
  refine ⟨empty_links, found, first, ?_⟩
  exact free_loaded (floppy_bios_honours _ _) (floppy_bios_succeeds _) (Start.power_on_entry _)
    empty_links found ⟨0, fun _ less => absurd less (Nat.not_lt_zero _), first⟩

end EmptyImage

end BootSector.DataSectors
