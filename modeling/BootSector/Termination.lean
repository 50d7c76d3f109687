import BootSector.FileLoading
import BootSector.RootSearch
import Mathlib.Order.Interval.Finset.Nat

/-!
# Which boots end

The loading loop ends with the chain it follows. On a table whose links stay
in the data area that chain either ends within 2847 clusters or has a loop,
and the loader does not notice a loop.
-/

namespace BootSector.Termination

open RealMode Bios Program Floppy Execution Assertion Loader Refinement FileLoading

variable {bios : Services} {disk : Disk} {entry : Config} {file length : Nat}

/-- The loader's chain comes back to a cluster before FFFh comes up. -/
def LoaderLoops (disk : Disk) (file : Nat) : Prop :=
  Chain.Loops (Fat12.entry (fat1 disk)) 0xfff (firstCluster disk file)

theorem links_inside (links : LinksWithin InData disk) (found : FirstLoader disk file)
    {position : Nat} (before : ∀ earlier ≤ position, fileCluster disk file earlier ≠ 0xfff) :
    InData (fileCluster disk file position) := by
  induction position using Nat.strongRecOn with
  | ind position ih =>
      refine links.cluster found (fun earlier less => ?_) (before position (le_refl position))
      exact ih earlier less (fun prior within => before prior (by omega))

theorem links_chain (links : LinksWithin InData disk) (found : FirstLoader disk file)
    (ends : Chain.EndsAfter (Fat12.entry (fat1 disk)) 0xfff (firstCluster disk file) length) :
    FileChain disk file length where
  positive := by
    by_contra none
    obtain rfl : length = 0 := by omega
    have first := links.first file found
    have marked : firstCluster disk file = 0xfff := ends.mark
    omega
  inside := fun position bound =>
    links_inside links found (fun earlier within => ends.before earlier (by omega))
  last := ends.mark

/-- A chain of the data area has at most 2847 clusters. -/
theorem chain_length_le (chain : FileChain disk file length) : length ≤ 2847 := by
  have bound := (chain.ends (by decide)).length_le (Finset.Icc 2 2848)
    (fun position within => Finset.mem_Icc.mpr (chain.inside position within))
  simpa using bound

theorem endless_loops (links : LinksWithin InData disk) (found : FirstLoader disk file)
    (endless : ∀ length, ¬Chain.EndsAfter (Fat12.entry (fat1 disk)) 0xfff
      (firstCluster disk file) length) : LoaderLoops disk file :=
  Chain.loops_of_unending (Finset.Icc 2 2848)
    (fun _ before => Finset.mem_Icc.mpr (links_inside links found before)) endless

theorem looping_never_ends (honours : Honours bios disk) (entered : Start.Entry entry)
    (found : FirstLoader disk file) (small : firstCluster disk file < 4577)
    (loops : LoaderLoops disk file) :
    Forever (step code bios) (fun config => ¬Ended config) entry := by
  have never := Chain.never_of_unending loops.unending
  have running : ∀ position, (phaseAt disk position).Running := fun position =>
    path_running found small (fun earlier _ => never (earlier + 1))
      (show position < file / 16 + 2 + (position + 1) by omega)
  have endless : Forever (step code bios) (Good 0x7bf0 .any) entry :=
    run_endless honours entered running (fun _ => permits_any _)
  exact endless.mono (fun _ good => good.2.1)

/-- The far jump is next, or the message and after it the endless jump. -/
def Concludes (bios : Services) (config : Config) : Prop :=
  config.machine.ip = fileLoaded ∨
    Reaches (step code bios) (fun _ => True) config (Finish.Halted bios config)

theorem chain_ends (honours : Honours bios disk) (succeeds : Succeeds bios)
    (entered : Start.Entry entry) (found : FirstLoader disk file)
    (chain : FileChain disk file length) : ∃ count, EndsAt bios entry count ∧
      Concludes bios ((step code bios)^[count] entry) ∧
      (dataReads ((step code bios)^[count] entry).log).length = length := by
  obtain ⟨count, ends, complete⟩ := EndsAt.of_reaches
    (file_ended honours succeeds entered found chain) (fun _ complete => .inl complete.atEnd.ip)
  refine ⟨count, ends, .inl complete.atEnd.ip, ?_⟩
  rw [complete.data_reads chain, fileReads, List.length_map, List.length_range]

theorem missing_ends (honours : Honours bios disk) (succeeds : Succeeds bios)
    (entered : Start.Entry entry) (unnamed : ∀ entry < 224, ¬Named disk entry) :
    ∃ count, EndsAt bios entry count ∧ Concludes bios ((step code bios)^[count] entry) ∧
      dataReads ((step code bios)^[count] entry).log = [] := by
  have single := RootSearch.single_reads_succeed succeeds
  obtain ⟨count, ends, missing, ax, dx, log⟩ :=
    EndsAt.of_reaches (RootSearch.missing_reached honours single entered unnamed)
      (fun _ missing => .inr missing.1.ip)
  have halts : Reaches (step code bios) (Sound 0x7bfe .any) _ _ :=
    Finish.missing_halts (le_refl 0x7bfe) missing
  refine ⟨count, ends, .inr (halts.mono (fun _ _ => trivial) (fun _ => id)), ?_⟩
  rw [log, dataReads, reads_for_append, ← dataReads, ← dataReads, search_data_reads]
  rfl

/-- On a sound table a boot ends exactly if the loader's chain has no loop, and
then after at most 2847 data reads. -/
theorem boot_ends_iff (honours : Honours bios disk) (succeeds : Succeeds bios)
    (entered : Start.Entry entry) (links : LinksWithin InData disk) :
    ((∃ count, EndsAt bios entry count) ↔
      ∀ file, FirstLoader disk file → ¬LoaderLoops disk file) ∧
    ∀ count, EndsAt bios entry count → Concludes bios ((step code bios)^[count] entry) ∧
      (dataReads ((step code bios)^[count] entry).log).length ≤ 2847 := by
  rcases first_loader_or_missing disk with ⟨file, found⟩ | missing
  · have first := links.first file found
    by_cases ending : ∃ length, Chain.EndsAfter (Fat12.entry (fat1 disk)) 0xfff
        (firstCluster disk file) length
    · obtain ⟨length, after⟩ := ending
      have chain := links_chain links found after
      obtain ⟨count, ends, concludes, reads⟩ := chain_ends honours succeeds entered found chain
      refine ⟨⟨fun _ other found' loops => ?_, fun _ => ⟨count, ends⟩⟩, fun count' ends' => ?_⟩
      · obtain rfl := found.unique found'
        exact loops.unending length after
      · obtain rfl := ends.unique ends'
        exact ⟨concludes, reads.symm ▸ chain_length_le chain⟩
    · have loops := endless_loops links found (not_exists.mp ending)
      have never := looping_never_ends honours entered found (by omega) loops
      exact ⟨⟨fun ⟨count, ends⟩ => absurd ends.ended (never count),
        fun straight => absurd loops (straight file found)⟩,
        fun count ends => absurd ends.ended (never count)⟩
  · obtain ⟨count, ends, concludes, reads⟩ := missing_ends honours succeeds entered missing
    refine ⟨⟨fun _ file found => absurd found.named (missing file found.bound),
      fun _ => ⟨count, ends⟩⟩, fun count' ends' => ?_⟩
    obtain rfl := ends.unique ends'
    exact ⟨concludes, by rw [reads]; exact Nat.zero_le _⟩

section LoopedImage

def looped : Disk := formatted 2 fun _ => 2

theorem looped_links : LinksWithin InData looped where
  first := fun file found => by
    obtain rfl := found.unique (formatted_first_loader 2 _)
    rw [looped, formatted_first_cluster _ (by decide)]
    decide
  link := fun cluster inside => by
    rw [looped, formatted_entry 2 (lt_of_le_of_lt inside.2 (by decide)) (by decide)]
    decide

theorem looped_loops : LoaderLoops looped 0 := by
  have first : firstCluster looped 0 = 2 := formatted_first_cluster _ (by decide)
  have link : Fat12.entry (fat1 looped) 2 = 2 := formatted_entry 2 (by decide) (by decide)
  have stays : ∀ position, (Fat12.entry (fat1 looped))^[position] 2 = 2 :=
    fun position => Function.iterate_fixed link position
  refine ⟨0, 1, by decide, ?_, fun earlier _ => ?_⟩
  · rw [first, stays, stays]
  · rw [first, stays]
    decide

theorem chained_ends_looped_not :
    (∃ count, EndsAt (floppyBios chained fun _ => 0) (Start.powerOn fun _ => 0) count ∧
      Concludes (floppyBios chained fun _ => 0) ((step code (floppyBios chained fun _ => 0))^[count]
        (Start.powerOn fun _ => 0)) ∧
      (dataReads ((step code (floppyBios chained fun _ => 0))^[count]
        (Start.powerOn fun _ => 0)).log).length ≤ 2847) ∧
    ¬∃ count, EndsAt (floppyBios looped fun _ => 0) (Start.powerOn fun _ => 0) count := by
  constructor
  · obtain ⟨ends, concludes⟩ := boot_ends_iff (floppy_bios_honours chained fun _ => 0)
      (floppy_bios_succeeds _) (Start.power_on_entry fun _ => 0) (chained_links fun _ => id)
    have straight : ∀ file, FirstLoader chained file → ¬LoaderLoops chained file := by
      intro file found loops
      obtain rfl := found.unique (formatted_first_loader 2 _)
      exact loops.unending 3 (chained_chain.ends (by decide))
    obtain ⟨count, ended⟩ := ends.mpr straight
    exact ⟨count, ended, concludes count ended⟩
  · rw [(boot_ends_iff (floppy_bios_honours looped fun _ => 0) (floppy_bios_succeeds _)
      (Start.power_on_entry fun _ => 0) looped_links).1]
    exact fun straight => straight 0 (formatted_first_loader _ _) looped_loops

/-- A loader whose one cluster links to itself is loaded over and over. -/
theorem looped_never_ends : LinksWithin InData looped ∧
    ∀ count, ¬Ended ((step code (floppyBios looped fun _ => 0))^[count]
      (Start.powerOn fun _ => 0)) := by
  have first : firstCluster looped 0 = 2 := formatted_first_cluster _ (by decide)
  exact ⟨looped_links, looping_never_ends (floppy_bios_honours _ _) (Start.power_on_entry _)
    (formatted_first_loader _ _) (by rw [first]; decide) looped_loops⟩

end LoopedImage

end BootSector.Termination
