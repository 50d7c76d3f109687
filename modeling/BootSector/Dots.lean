import BootSector.FileLoading

/-!
# The progress dots

Every turn of the loop shows one dot before its read and loses nothing by it.
But `BX` is the load offset when the dot is shown, and only `BL` is set for the
video service: the page of a dot follows the offset.
-/

namespace BootSector.Dots

open RealMode Bios Program Floppy Execution Assertion Loader Refinement LoadFile FileLoading

variable {bios : Services} {disk : Disk} {entry config : Config} {file length : Nat}

section Logs

/-- The teletype calls, which have 0Eh in `AH`, and the reads issued from
`GoOnLoadingFile`, failed attempts included. -/
def dotsAndLoads (log : Log) : Log :=
  log.filter fun
    | .video ax _ => highByte ax = 0x0e#8
    | .read call _ _ => call.back = loadReturn
    | .disk _ _ => false

theorem dots_and_loads_append (log more : Log) :
    dotsAndLoads (log ++ more) = dotsAndLoads log ++ dotsAndLoads more :=
  List.filter_append ..

theorem start_dots_and_loads (ax dx : Word) : dotsAndLoads (Start.startLog ax dx) = [] := rfl

theorem search_dots_and_loads (sectors : Nat) : dotsAndLoads (searchLog sectors) = [] := by
  rw [dotsAndLoads, List.filter_eq_nil_iff]
  intro event listed
  obtain ⟨sector, _, rfl⟩ := List.mem_map.mp listed
  simp [Search.rootCall, loadReturn]

theorem turn_dots_and_loads (cluster count : Nat) : dotsAndLoads (turnLog cluster count) =
    [dotEvent count, .read (dataCall cluster) (dataRequest cluster count) false] := rfl

/-- In the loop's log a dot and a data read alternate. -/
theorem loop_dots_and_loads (disk : Disk) (file length : Nat) :
    dotsAndLoads (loopLog disk file length) = (List.range length).flatMap fun position =>
      [dotEvent position, .read (dataCall (fileCluster disk file position))
        (dataRequest (fileCluster disk file position) position) false] := by
  rw [dotsAndLoads, loopLog, List.filter_flatMap]
  apply List.flatMap_congr
  intro position _
  exact turn_dots_and_loads ..

theorem dot_page (count : Nat) :
    highByte (BitVec.ofNat 16 (512 * count)) = BitVec.ofNat 8 (2 * count) := by
  apply BitVec.eq_of_toNat_eq
  rw [high_byte_to_nat, BitVec.toNat_ofNat, BitVec.toNat_ofNat]
  omega

end Logs

section Runs

/-- One dot before each data read and no other teletype call, every one of them
on page 0. -/
structure VisibleDots (disk : Disk) (file length : Nat) (log : Log) : Prop where
  paired : ∃ bx : Nat → Word, dotsAndLoads log = (List.range length).flatMap fun position =>
    [.video 0x0e2e#16 (bx position), .read (dataCall (fileCluster disk file position))
      (dataRequest (fileCluster disk file position) position) false]
  page : ∀ ax bx, .video ax bx ∈ log → highByte ax = 0x0e#8 → highByte bx = 0#8

/-- A turn that begins here comes to its read with nothing lost to the dot. -/
def Undisturbed (bios : Services) (config : Config) : Prop :=
  config.fault = false → config.machine.cs = 0#16 → config.machine.ip = goOnLoadingFile →
    Reaches (step code bios) (fun later => ¬Ended later) config (Asking config)

/-- The dots are visible when the file is loaded, and no turn that began loses
its load pointer, its sector or its cluster to one. -/
structure ShowsDots (bios : Services) (disk : Disk) (file length : Nat) (entry : Config) :
    Prop where
  shown : Reaches (step code bios) (fun config => ¬Ended config) entry (fun config =>
    config.machine.ip = fileLoaded ∧ VisibleDots disk file length config.log)
  undisturbed : Forever (step code bios) (Undisturbed bios) entry

/-- In every run each turn comes to its read undisturbed. -/
theorem turns_undisturbed (honours : Honours bios disk) (entered : Start.Entry entry) :
    Forever (step code bios) (Undisturbed bios) entry := by
  have safe : Forever (step code bios) (Safe 0x7bf0 .any) entry :=
    run_safe honours entered (fun _ => permits_any _)
  refine Forever.mono ?_ safe
  intro config line fault cs ip
  have asks : Advances (step code bios) True (Good 0x7bf0 .any) config (Asking config) :=
    reach_call honours (by decide) fault cs ip (line fault).1
  exact (asks.runs.reaches trivial).mono (fun _ good => good.2.1) (fun _ => id)

theorem complete_dots_and_loads (complete : Complete disk file length entry config) :
    dotsAndLoads config.log = (List.range length).flatMap fun position =>
      [dotEvent position, .read (dataCall (fileCluster disk file position))
        (dataRequest (fileCluster disk file position) position) false] := by
  obtain ⟨ax, dx, log⟩ := complete.log
  rw [log, dots_and_loads_append, dots_and_loads_append, start_dots_and_loads,
    search_dots_and_loads, List.nil_append, List.nil_append, loop_dots_and_loads]

theorem teletype_iff (complete : Complete disk file length entry config) {ax bx : Word} :
    (.video ax bx ∈ config.log ∧ highByte ax = 0x0e#8) ↔
      ∃ position < length, .video ax bx = dotEvent position := by
  have listed : (.video ax bx ∈ config.log ∧ highByte ax = 0x0e#8) ↔
      .video ax bx ∈ dotsAndLoads config.log := by
    simp [dotsAndLoads]
  rw [listed, complete_dots_and_loads complete]
  simp

theorem visible_iff (complete : Complete disk file length entry config)
    (chain : FileChain disk file length) :
    VisibleDots disk file length config.log ↔ length = 1 := by
  constructor
  · intro visible
    by_contra other
    have positive := chain.positive
    obtain ⟨second, teletype⟩ := (teletype_iff complete).mpr ⟨1, by omega, rfl⟩
    have page := visible.page _ _ second teletype
    rw [high_byte_word_of, dot_page] at page
    exact absurd page (by decide)
  · rintro rfl
    refine ⟨⟨_, complete_dots_and_loads complete⟩, ?_⟩
    intro ax bx shown teletype
    obtain ⟨position, first, same⟩ := (teletype_iff complete).mp ⟨shown, teletype⟩
    obtain rfl : position = 0 := by omega
    injection same with _ page
    rw [page, high_byte_word_of, dot_page]

/-- The second dot of a longer loader is not visible. -/
theorem long_loader_hides_dots (honours : Honours bios disk) (succeeds : Succeeds bios)
    (entered : Start.Entry entry) (found : FirstLoader disk file)
    (chain : FileChain disk file length) (other : length ≠ 1) :
    ¬ShowsDots bios disk file length entry := by
  intro shows
  obtain ⟨config, ⟨_, visible⟩, complete⟩ :=
    shows.shown.meet (file_ended honours succeeds entered found chain)
      (fun _ shown => .inl shown.1) (fun _ complete => .inl complete.atEnd.ip)
  exact other ((visible_iff complete chain).mp visible)

/-- The dots of a loader are all visible exactly if it has one sector. -/
theorem dots_visible_iff (honours : Honours bios disk) (succeeds : Succeeds bios)
    (entered : Start.Entry entry) (found : FirstLoader disk file)
    (chain : FileChain disk file length) :
    ShowsDots bios disk file length entry ↔ length = 1 := by
  constructor
  · intro shows
    by_contra other
    exact long_loader_hides_dots honours succeeds entered found chain other shows
  · intro single
    refine ⟨?_, turns_undisturbed honours entered⟩
    apply (file_ended honours succeeds entered found chain).mono (fun _ => id)
    intro config complete
    exact ⟨complete.atEnd.ip, (visible_iff complete chain).mpr single⟩

theorem one_sector_dot_visible :
    ShowsDots (floppyBios (sequential 1) fun _ => 0) (sequential 1) 0 1
      (Start.powerOn fun _ => 0) :=
  (dots_visible_iff (floppy_bios_honours _ _) (floppy_bios_succeeds _) (Start.power_on_entry _)
    (formatted_first_loader _ _) (sequential_chain (by decide) (by decide))).mpr rfl

/-- The second dot of a loader of two sectors goes to page 2. -/
theorem second_dot_hidden :
    FirstLoader (sequential 2) 0 ∧ FileChain (sequential 2) 0 2 ∧
      Reaches (step code (floppyBios (sequential 2) fun _ => 0)) (fun config => ¬Ended config)
        (Start.powerOn fun _ => 0)
        (fun config => config.machine.ip = fileLoaded ∧ .video 0x0e2e#16 0x020f#16 ∈ config.log) ∧
      ¬ShowsDots (floppyBios (sequential 2) fun _ => 0) (sequential 2) 0 2
        (Start.powerOn fun _ => 0) := by
  have honours := floppy_bios_honours (sequential 2) fun _ => 0
  have succeeds := floppy_bios_succeeds (sequential 2)
  have entered := Start.power_on_entry fun _ => 0
  have found : FirstLoader (sequential 2) 0 := formatted_first_loader _ _
  have chain : FileChain (sequential 2) 0 2 := sequential_chain (by decide) (by decide)
  refine ⟨found, chain, ?_,
    long_loader_hides_dots honours succeeds entered found chain (by decide)⟩
  apply (file_ended honours succeeds entered found chain).mono (fun _ => id)
  intro config complete
  exact ⟨complete.atEnd.ip, ((teletype_iff complete).mpr ⟨1, by decide, by decide⟩).1⟩

end Runs

end BootSector.Dots
