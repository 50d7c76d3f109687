import BootSector.Refinement

/-!
# Which directory entry is loaded

The search compares names. It looks neither at the attributes of an entry nor
at the end mark, so the entry it takes is a live file only if the first entry
with the name is one.
-/

namespace BootSector.Selection

open RealMode Bios Program Floppy Execution Assertion Loader Refinement

variable {bios : Services} {failures : Nat → Nat} {disk : Disk} {entry : Config} {found : Nat}

section Directory

/-- Before the end mark, which is a first byte of zero; neither a volume label
or a part of a long name nor a subdirectory. -/
structure Live (disk : Disk) (found : Nat) : Prop where
  present : ∀ earlier ≤ found, rootByte disk earlier 0 ≠ 0
  plain : rootByte disk found 0x0b &&& 0x18#8 = 0#8

structure FirstLive (disk : Disk) (found : Nat) : Prop where
  bound : found < 224
  named : Named disk found
  live : Live disk found
  first : ∀ earlier < found, Named disk earlier → ¬Live disk earlier

theorem FirstLive.first_loader {other : Nat} (firstLive : FirstLive disk found)
    (first : FirstLoader disk other) (live : Live disk other) : other = found := by
  rcases Nat.lt_trichotomy other found with less | same | more
  · exact absurd live (firstLive.first other less first.named)
  · exact same
  · exact absurd firstLive.named (first.first found more)

end Directory

section Runs

/-- The loop is entered with the first cluster of a directory entry: its sector
is the last one read, and `DI` is at its cluster field in the buffer. -/
structure Picked (disk : Disk) (found : Nat) (config : Config) : Prop where
  fault : config.fault = false
  ip : config.machine.ip = goOnLoadingFile
  di : config.machine.di = BitVec.ofNat 16 (0x8000 + 32 * (found % 16) + 0x1a)
  log : ∃ ax dx, settled config.log = Start.startLog ax dx ++ searchLog (found / 16 + 1)
  top : config.machine.top = BitVec.ofNat 16 (firstCluster disk found)

def Selects (bios : Services) (disk : Disk) (entry : Config) (found : Nat) : Prop :=
  Reaches (step code bios) (fun config => config.machine.ip ≠ goOnLoadingFile) entry
    (Picked disk found)

theorem picked_unique {other : Nat} {config : Config} (picked : Picked disk found config)
    (picked' : Picked disk other config) : found = other := by
  have slots := congrArg BitVec.toNat (picked.di.symm.trans picked'.di)
  simp only [BitVec.toNat_ofNat] at slots
  obtain ⟨ax, dx, log⟩ := picked.log
  obtain ⟨ax', dx', log'⟩ := picked'.log
  have sectors := congrArg List.length (log.symm.trans log')
  simp only [List.length_append, searchLog, List.length_map, List.length_range, Start.startLog,
    List.length_cons, List.length_nil] at sectors
  omega

theorem selects_unique {other : Nat} (selects : Selects bios disk entry found)
    (selects' : Selects bios disk entry other) : found = other := by
  obtain ⟨config, picked, picked'⟩ :=
    selects.meet selects' (fun _ picked => picked.ip) (fun _ picked => picked.ip)
  exact picked_unique picked picked'

def Searching : Allowed := ⟨fun _ _ => True, fun _ => False⟩

theorem searching_outside {floor : Nat} (config : Config) (good : Good floor Searching config) :
    config.machine.ip ≠ goOnLoadingFile := by
  intro place
  obtain ⟨_, _, _, _, _, never⟩ := good.2.2.1.2.2 place
  exact never

theorem found_picked (first : FirstLoader disk found) {config : Config}
    (reached : Reached disk entry (found / 16 + 1) config) :
    Runs (step code bios) True (Good 0x7bf0 Searching) config (Picked disk found) := by
  obtain ⟨ax, dx, sim⟩ := reached
  obtain ⟨atFound, data⟩ := sim.place_at (found_phase first)
  apply (LoadFile.reach_push atFound (found_word data)).runs.bind
  rintro taking ⟨taken, di⟩
  apply (LoadFile.reach_loop taken rfl).mono (fun _ => id)
  rintro later ⟨atCluster, sameDi, sameLog, _⟩
  exact
    { fault := atCluster.ready.fault
      ip := atCluster.ip
      di := sameDi.trans di
      log := ⟨ax, dx, by rw [sameLog, sim.log, found_log first]⟩
      top := by rw [Machine.top, atCluster.ready.ss, atCluster.sp, atCluster.top] }

def DirectoryServed (bios : Services) (failures : Nat → Nat) : Prop :=
  ∀ sector < 14, Serves bios failures (Search.rootRequest sector)

theorem directory_served (recovers : Recovers bios failures) : DirectoryServed bios failures :=
  fun _ within => recovers _ (Search.root_request_on_disk within)

theorem first_selected (honours : Honours bios disk) (served : DirectoryServed bios failures)
    (entered : Start.Entry entry) (first : FirstLoader disk found) :
    Selects bios disk entry found := by
  have bound := first.bound
  have permits : ∀ position < found / 16 + 1, Permits Searching (phaseAt disk position) := by
    intro position early
    refine ⟨fun _ _ => trivial, fun cluster count loading => ?_⟩
    rw [searching_phase first (by omega)] at loading
    cases loading
  have serves : True → ∀ position < found / 16 + 1, ∀ read ∈ (phaseAt disk position).reads,
      Serves bios failures read.2 := by
    intro _ position early read listed
    rw [searching_phase first (by omega)] at listed
    rcases Phase.reads_cases listed with ⟨sector, same, _, rfl⟩ | ⟨_, _, same, _⟩ |
      ⟨_, _, same, _⟩ <;> cases same
    exact served position (by omega)
  have reaches := (run_reaches failures (found / 16 + 1) honours entered
    (fun _ early => search_running first (by omega)) permits serves).bind
    (fun _ reached => found_picked first reached)
  exact (reaches.reaches trivial).mono searching_outside (fun _ => id)

theorem none_selected (honours : Honours bios disk) (entered : Start.Entry entry)
    (unnamed : ∀ entry < 224, ¬Named disk entry) : ¬Selects bios disk entry found := by
  rintro ⟨count, _, picked⟩
  have safe : Forever (step code bios) (Safe 0x7bf0 Searching) entry :=
    run_safe honours entered (permits_clusters
      (fun file _ first => unnamed file first.bound first.named))
  obtain ⟨_, _, _, _, _, never⟩ := (safe count picked.fault).1.2.2 picked.ip
  exact never

theorem selects_iff (honours : Honours bios disk) (served : DirectoryServed bios failures)
    (entered : Start.Entry entry) : Selects bios disk entry found ↔ FirstLoader disk found := by
  constructor
  · intro selects
    rcases first_loader_or_missing disk with ⟨other, first⟩ | missing
    · have same := selects_unique selects (first_selected honours served entered first)
      exact same ▸ first
    · exact absurd selects (none_selected honours entered missing)
  · exact first_selected honours served entered

/-- The entry loaded is a live file, and every first live file with the name is
the one loaded. -/
structure SelectsLive (bios : Services) (disk : Disk) (entry : Config) : Prop where
  live : ∀ found, Selects bios disk entry found → Live disk found
  finds : ∀ found, FirstLive disk found → Selects bios disk entry found

/-- The search selects the first entry with the name whatever it is, and so a
live file exactly if that entry is one. -/
theorem selects_live_iff (honours : Honours bios disk) (served : DirectoryServed bios failures)
    (entered : Start.Entry entry) :
    (∀ found, Selects bios disk entry found ↔ FirstLoader disk found) ∧
      (SelectsLive bios disk entry ↔ ∀ found, FirstLoader disk found → Live disk found) := by
  refine ⟨fun found => selects_iff honours served entered, ?_, ?_⟩
  · intro selectsLive found first
    exact selectsLive.live found (first_selected honours served entered first)
  · intro live
    constructor
    · intro found selects
      exact live found ((selects_iff honours served entered).mp selects)
    · intro found firstLive
      obtain ⟨other, first⟩ := exists_first_loader ⟨found, firstLive.bound, firstLive.named⟩
      have same := firstLive.first_loader first (live other first)
      exact first_selected honours served entered (same ▸ first)

theorem lone_file_selected :
    SelectsLive (floppyBios (sequential 3) fun _ => 0) (sequential 3) (Start.powerOn fun _ => 0) :=
  (selects_live_iff (floppy_bios_honours _ _) (directory_served (floppy_bios_recovers _ _))
    (Start.power_on_entry _)).2.mpr fun found first => by
      obtain rfl := first.unique (formatted_first_loader _ _)
      exact ⟨by decide, by decide⟩

/-- A disk labelled like the loader: the volume label is the first entry, the
file itself the second. -/
def labelled : Disk := fun address =>
  if address = 512 * 19 + 0x0b then 0x08#8
  else if address < 512 * 19 + 32 then formatted 0 (fun _ => 0xfff) address
  else if address < 512 * 19 + 64 then formatted 2 (fun _ => 0xfff) (address - 32)
  else 0

/-- The label is taken for the file, and cluster 0 for its first cluster. -/
theorem label_selected :
    FirstLive labelled 1 ∧ firstCluster labelled 0 = 0 ∧
      Selects (floppyBios labelled fun _ => 0) labelled (Start.powerOn fun _ => 0) 0 ∧
      ¬Selects (floppyBios labelled fun _ => 0) labelled (Start.powerOn fun _ => 0) 1 ∧
      ¬SelectsLive (floppyBios labelled fun _ => 0) labelled (Start.powerOn fun _ => 0) := by
  have first : FirstLoader labelled 0 :=
    ⟨by decide, by decide, fun earlier less => absurd less (Nat.not_lt_zero _)⟩
  have label : ¬Live labelled 0 := fun live => absurd live.plain (by decide)
  have firstLive : FirstLive labelled 1 :=
    { bound := by decide
      named := by decide
      live := ⟨by decide, by decide⟩
      first := fun earlier less _ => by
        obtain rfl : earlier = 0 := by omega
        exact label }
  have selects : Selects (floppyBios labelled fun _ => 0) labelled (Start.powerOn fun _ => 0) 0 :=
    first_selected (floppy_bios_honours _ _) (directory_served (floppy_bios_recovers _ _))
      (Start.power_on_entry _) first
  refine ⟨firstLive, by decide, selects, ?_, ?_⟩
  · intro other
    exact absurd (selects_unique selects other) (by decide)
  · intro selectsLive
    exact label (selectsLive.live 0 selects)

end Runs

end BootSector.Selection
