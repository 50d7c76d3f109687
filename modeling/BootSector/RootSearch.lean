import BootSector.Refinement

/-!
# The search of the root directory

The three loops together are "the first of 224 entries with the name": which
sectors are read, where the search stops, and which cluster it hands over.
-/

namespace BootSector.RootSearch

open RealMode Bios Program Floppy Execution Assertion Loader Refinement

variable {bios : Services} {disk : Disk} {entry : Config}

def SingleReadsSucceed (bios : Services) : Prop :=
  ∀ log machine, machine.isRead → machine.request.OnDisk ∧ machine.request.count = 1 →
    (bios.disk log machine).carry = false

theorem single_reads_succeed (succeeds : Succeeds bios) : SingleReadsSucceed bios :=
  fun log machine reads present => succeeds log machine reads present.1

/-- At `FileNameFound` for a directory entry, after `sectors` sectors. -/
structure AtMatch (sectors : Nat) (config : Config) : Prop where
  fault : config.fault = false
  ip : config.machine.ip = fileNameFound
  es : config.machine.es = 0#16
  log : ∃ ax dx, config.log = Start.startLog ax dx ++ searchLog sectors

structure Pushed (cluster : Nat) (config : Config) : Prop where
  ip : config.machine.ip = 0x7cfc#16
  cx : config.machine.cx = BitVec.ofNat 16 cluster
  top : config.machine.top = BitVec.ofNat 16 cluster
  sp : config.machine.sp = baseOfStack - 2#16

theorem match_reached (honours : Honours bios disk) (single : SingleReadsSucceed bios)
    (entered : Start.Entry entry) {found : Nat} (first : FirstLoader disk found) :
    Reaches (step code bios) (fun config => ¬Ended config) entry (fun config =>
      AtMatch (found / 16 + 1) config ∧
        Reaches (step code bios) (fun later => ¬Ended later) config
          (Pushed (firstCluster disk found))) := by
  have reaches := clean_run_reaches
    (fun request => request.OnDisk ∧ request.count = 1) (found / 16 + 1) honours entered
    (fun _ early => search_running first (by omega)) single
    (fun _ early => search_reads first (by omega))
  refine reaches.mono (fun _ good => good.2.1) ?_
  rintro config ⟨ax, dx, sim, log⟩
  obtain ⟨atFound, data⟩ := sim.place_at (found_phase first)
  refine ⟨⟨atFound.ready.fault, atFound.ip, atFound.es, ax, dx, log.trans (found_log first _)⟩, ?_⟩
  have pushes : Runs (step code bios) True (Good 0x7bf0 .any) config _ :=
    (LoadFile.reach_push atFound (found_word data)).runs
  refine (pushes.reaches trivial).mono (fun _ good => good.2.1) ?_
  rintro later ⟨taken, -⟩
  exact
    { ip := taken.ip
      cx := taken.cx
      top := by rw [Machine.top, taken.ready.ss, taken.sp, taken.top]
      sp := taken.sp }

theorem missing_reached (honours : Honours bios disk) (single : SingleReadsSucceed bios)
    (entered : Start.Entry entry) (unnamed : ∀ entry < 224, ¬Named disk entry) :
    Reaches (step code bios) (fun config => ¬Ended config) entry (fun config =>
      Search.AtMissing config ∧
        ∃ ax dx, config.log = Start.startLog ax dx ++ searchLog 14) := by
  have phase : ∀ position < 15, phaseAt disk position = .scanning position :=
    fun position early => scanning_phase (by omega) (fun earlier less => unnamed earlier (by omega))
  have reaches := clean_run_reaches
    (fun request => request.OnDisk ∧ request.count = 1) 15 honours entered
    (fun position early => by rw [phase position early]; trivial) single
    (fun position early => by
      rw [phase position early]
      rcases Nat.lt_succ_iff_lt_or_eq.mp early with within | rfl
      · exact scan_reads within
      · intro read listed
        cases listed)
  refine reaches.mono (fun _ good => good.2.1) ?_
  rintro config ⟨ax, dx, sim, log⟩
  exact ⟨sim.place_at (missing_phase unnamed), ax, dx, log.trans (missing_log unnamed _)⟩

/-- The search reads sectors 19, 20 and so on, one at a time, and stops at the
first entry with the name or after the fourteenth sector. -/
theorem search_first_match (honours : Honours bios disk) (single : SingleReadsSucceed bios)
    (entered : Start.Entry entry) :
    ((∃ entry < 224, Named disk entry) → ∃ found, FirstLoader disk found ∧
      Reaches (step code bios) (fun config => ¬Ended config) entry (fun config =>
        AtMatch (found / 16 + 1) config ∧
          Reaches (step code bios) (fun later => ¬Ended later) config
            (Pushed (firstCluster disk found)))) ∧
    ((∀ entry < 224, ¬Named disk entry) →
      Reaches (step code bios) (fun config => ¬Ended config) entry (fun config =>
        config.machine.ip = noLoaderBin ∧
          ∃ ax dx, config.log = Start.startLog ax dx ++ searchLog 14)) := by
  constructor
  · intro listed
    obtain ⟨found, first⟩ := exists_first_loader listed
    exact ⟨found, first, match_reached honours single entered first⟩
  · intro unnamed
    refine (missing_reached honours single entered unnamed).mono (fun _ => id) ?_
    rintro config ⟨atMissing, log⟩
    exact ⟨atMissing.ip, log⟩

theorem search_finds_first_slot : ∃ found, FirstLoader (sequential 3) found ∧
    Reaches (step code (floppyBios (sequential 3) fun _ => 0)) (fun config => ¬Ended config)
      (Start.powerOn fun _ => 0) (fun config => AtMatch (found / 16 + 1) config ∧
        Reaches (step code (floppyBios (sequential 3) fun _ => 0)) (fun later => ¬Ended later)
          config (Pushed (firstCluster (sequential 3) found))) :=
  (search_first_match (floppy_bios_honours _ _)
    (single_reads_succeed (floppy_bios_succeeds _)) (Start.power_on_entry _)).1
    ⟨0, by decide, (formatted_first_loader _ _).named⟩

end BootSector.RootSearch
