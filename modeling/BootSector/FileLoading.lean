import BootSector.RunSafety

/-!
# Loading a file

What the boot sector makes of a file whose chain is sound: the reads it issues
in order, and the memory the loader starts in.
-/

namespace BootSector.FileLoading

open RealMode Bios Program Floppy Execution Assertion Loader Refinement LoadFile

variable {bios : Services} {disk : Disk} {entry config : Config} {file length mark : Nat}

section Chains

theorem chain_small (chain : MarkedChain disk file length mark) :
    firstCluster disk file < 4577 := by
  have inside := chain.inside 0 chain.positive
  simp only [fileCluster, Function.iterate_zero, id_eq] at inside
  omega

theorem chain_more (chain : MarkedChain disk file length mark) :
    ∀ earlier < length - 1, fileCluster disk file (earlier + 1) ≠ 0xfff := by
  intro earlier less
  have inside := chain.inside (earlier + 1) (by omega)
  omega

theorem chain_loaded (found : FirstLoader disk file) (chain : FileChain disk file length) :
    phaseAt disk (file / 16 + 2 + length) = .loaded (length - 1) := by
  have positive := chain.positive
  obtain ⟨count, rfl⟩ := Nat.exists_eq_add_of_le' positive
  exact loaded_phase found (chain_small chain) (chain_more chain) chain.last

end Chains

section Logs

/-- `CALL ReadOneSector` in the loop returns here. -/
def loadReturn : Word := 0x7d1c#16

/-- The reads issued from `GoOnLoadingFile`. -/
def dataReads (log : Log) : List Request := readsFor loadReturn log

def fileReads (disk : Disk) (file length : Nat) : List Request :=
  (List.range length).map fun position =>
    .ofLba 1 (fileCluster disk file position + 31) baseOfLoader (BitVec.ofNat 16 (512 * position))

theorem data_sector_small {cluster : Nat} (small : cluster < 4577) :
    dataSector cluster = cluster + 31 := by
  simp only [dataSector]
  omega

theorem turn_data_reads {cluster : Nat} (small : cluster < 4577) (position : Nat) :
    dataReads (turnLog cluster position) =
      [.ofLba 1 (cluster + 31) baseOfLoader (BitVec.ofNat 16 (512 * position))] := by
  rw [← data_sector_small small]
  rfl

theorem search_data_reads (sectors : Nat) : dataReads (searchLog sectors) = [] := by
  rw [dataReads, readsFor, searchLog, List.filterMap_map, List.filterMap_eq_nil_iff]
  intro sector _
  rfl

theorem loop_data_reads (small : firstCluster disk file < 4577) (ax dx : Word) (sectors : Nat) :
    dataReads (Start.startLog ax dx ++ searchLog sectors ++ loopLog disk file length) =
      fileReads disk file length := by
  have turns : dataReads (loopLog disk file length) = fileReads disk file length := by
    rw [dataReads, readsFor, loopLog, List.filterMap_flatMap, fileReads, List.map_eq_flatMap]
    apply List.flatMap_congr
    intro position _
    exact turn_data_reads (file_cluster_small small position) position
  rw [dataReads, reads_for_append, reads_for_append, ← dataReads, ← dataReads, ← dataReads, turns,
    search_data_reads]
  rfl

theorem other_reads_buffer {position : Nat} {read : Call × Request}
    (listed : read ∈ (phaseAt disk position).reads) (other : read.1.back ≠ loadReturn)
    {address : Nat} (covered : read.2.Covers address) : 0x8000 ≤ address ∧ address < 0x8400 := by
  rcases Phase.reads_cases listed with ⟨sector, _, _, rfl⟩ | ⟨cluster, count, _, _, rfl⟩ |
    ⟨cluster, count, _, _, rfl⟩
  · have inside := (Search.root_request_covers sector address).mp covered
    omega
  · exact absurd rfl other
  · exact (GetFATEntry.fat_request_covers cluster address).mp covered

end Logs

section LoadedMemory

/-- A turn of the loop writes its own 512 bytes of the load segment. -/
theorem turn_memory {cluster turn : Nat} (small : cluster < 4577) (fits : turn < 128)
    (memory : Memory) {position index : Nat} (within : position < 128) (bound : index < 512) :
    replay disk memory (completed (turnLog cluster turn)) (0x10000 + 512 * position + index) =
      if position = turn then disk (512 * (cluster + 31) + index)
      else memory (0x10000 + 512 * position + index) := by
  have reads : completed (turnLog cluster turn) = [(dataCall cluster, dataRequest cluster turn),
      (GetFATEntry.fatCall cluster, GetFATEntry.fatRequest cluster)] := rfl
  have outside : ¬(GetFATEntry.fatRequest cluster).Covers (0x10000 + 512 * position + index) := by
    rw [GetFATEntry.fat_request_covers]
    omega
  rw [reads, replay_cons, replay_cons, replay_nil, deliver_outside outside]
  split_ifs with same
  · subst same
    have covered : (dataRequest cluster position).Covers (0x10000 + 512 * position + index) := by
      rw [data_request_covers]
      omega
    have offset :
        0x10000 + 512 * position + index - (0x10000 + 512 * position % 65536) = index := by
      omega
    rw [deliver_covered covered, data_request_start, dataRequest, Request.lba_of_lba,
      data_sector_small small, offset]
  · apply deliver_outside
    rw [data_request_covers]
    omega

theorem loop_memory (small : firstCluster disk file < 4577) (fits : length ≤ 128) (memory : Memory)
    {position index : Nat} (within : position < length) (bound : index < 512) :
    replay disk memory (completed (loopLog disk file length)) (0x10000 + 512 * position + index) =
      disk (512 * (fileCluster disk file position + 31) + index) := by
  induction length with
  | zero => omega
  | succ length ih =>
      rw [loop_log_succ, completed_append, replay_append,
        turn_memory (file_cluster_small small length) (by omega) _ (by omega) bound]
      split_ifs with same
      · rw [same]
      · exact ih (by omega) (by omega)

end LoadedMemory

section WholeBoot

/-- At `FileLoaded` with the file loaded: what the boot asked of the BIOS, and
what that made of memory. -/
structure Complete (disk : Disk) (file length : Nat) (entry config : Config) : Prop where
  atEnd : AtEnd (length - 1) config
  log : ∃ ax dx, config.log = Start.startLog ax dx ++ searchLog (file / 16 + 1) ++
    loopLog disk file length
  reads : ∀ call request failed, .read call request failed ∈ config.log → failed = false ∧
    ∃ position < file / 16 + 2 + length, (call, request) ∈ (phaseAt disk position).reads
  segment : ∀ address, 0x10000 ≤ address → address < 0xa0000 →
    config.machine.memory address = replay disk entry.machine.memory (completed config.log) address

theorem log_reads {ax dx : Word} {count : Nat} {call : Call} {request : Request} {failed : Bool}
    (listed : .read call request failed ∈ (stateAt disk (Start.startLog ax dx) count).log) :
    failed = false ∧ ∃ position < count, (call, request) ∈ (phaseAt disk position).reads := by
  simp only [stateAt, List.mem_append, List.mem_flatMap, List.mem_range] at listed
  rcases listed with early | ⟨position, bound, event⟩
  · simp [Start.startLog] at early
  · cases failed with
    | false => exact ⟨rfl, position, bound, List.mem_filterMap.mpr ⟨_, event, rfl⟩⟩
    | true => exact absurd event (Phase.events_succeed _ call request)

/-- Where the clusters passed have sectors on the disk, the loop is reached with
the cluster that comes next, or the end with the file. -/
theorem path_reached (honours : Honours bios disk) (succeeds : Succeeds bios)
    (entered : Start.Entry entry) (found : FirstLoader disk file)
    (small : firstCluster disk file < 4577) {count : Nat}
    (more : ∀ earlier < count - 1, fileCluster disk file (earlier + 1) ≠ 0xfff)
    (present : ∀ turn < count, fileCluster disk file turn ≤ 2848) :
    Reaches (step code bios) (Good 0x7bf0 (.reading Request.OnDisk)) entry (fun later =>
      ∃ ax dx, Simulates disk entry.machine.memory
        (stateAt disk (Start.startLog ax dx) (file / 16 + 2 + count)) later ∧
        later.log = (stateAt disk (Start.startLog ax dx) (file / 16 + 2 + count)).log) :=
  clean_run_reaches Request.OnDisk _ honours entered
    (fun _ bound => path_running found small more bound) succeeds
    (fun _ bound => path_reads found small more present bound)

theorem file_complete (honours : Honours bios disk) (succeeds : Succeeds bios)
    (entered : Start.Entry entry) (found : FirstLoader disk file)
    (chain : FileChain disk file length) :
    Reaches (step code bios) (Good 0x7bf0 (.reading Request.OnDisk)) entry
      (Complete disk file length entry) := by
  have small := chain_small chain
  have more := chain_more chain
  have reaches := path_reached honours succeeds entered found small more
    (fun turn within => (chain.inside turn within).2)
  refine reaches.mono (fun _ => id) ?_
  rintro config ⟨ax, dx, sim, log⟩
  have phase := chain_loaded found chain
  have mirrors := sim.mirrors (by simp [stateAt, phase])
  constructor
  · exact sim.place_at phase
  · exact ⟨ax, dx, log.trans (loading_log found small more _)⟩
  · intro call request failed listed
    rw [log] at listed
    exact log_reads listed
  · rw [log]
    exact mirrors.segment

theorem file_ended (honours : Honours bios disk) (succeeds : Succeeds bios)
    (entered : Start.Entry entry) (found : FirstLoader disk file)
    (chain : FileChain disk file length) :
    Reaches (step code bios) (fun config => ¬Ended config) entry
      (Complete disk file length entry) :=
  (file_complete honours succeeds entered found chain).mono (fun _ good => good.2.1) (fun _ => id)

theorem Complete.data_reads (chain : FileChain disk file length)
    (complete : Complete disk file length entry config) :
    dataReads config.log = fileReads disk file length := by
  obtain ⟨ax, dx, log⟩ := complete.log
  rw [log]
  exact loop_data_reads (chain_small chain) ax dx _

theorem Complete.on_disk (found : FirstLoader disk file) (chain : FileChain disk file length)
    (complete : Complete disk file length entry config) {read : Call × Request}
    (listed : read ∈ completed config.log) : read.2.OnDisk := by
  have logged : .read read.1 read.2 false ∈ config.log := by
    obtain ⟨event, member, same⟩ := List.mem_filterMap.mp listed
    cases event with
    | video ax bx => cases same
    | disk ax dx => cases same
    | read call request failed =>
        cases failed with
        | true => cases same
        | false =>
            cases same
            exact member
  obtain ⟨_, position, bound, member⟩ := complete.reads _ _ _ logged
  exact path_reads found (chain_small chain) (chain_more chain)
    (fun turn within => (chain.inside turn within).2) bound read member

def InLoader (config : Config) : Prop :=
  config.machine.cs = baseOfLoader ∧ config.machine.ip = offsetOfLoader

theorem zero_outside (cs : config.machine.cs = 0#16) : ¬InLoader config := by
  rintro ⟨inside, -⟩
  rw [cs] at inside
  exact absurd inside (by decide)

theorem good_outside {floor : Nat} {allowed : Allowed} (config : Config)
    (good : Good floor allowed config) : ¬InLoader config := by
  apply zero_outside
  by_contra outside
  have line := good.2.2.2
  rw [Finish.unknown_code outside] at line
  exact line

theorem file_entered (honours : Honours bios disk) (succeeds : Succeeds bios)
    (entered : Start.Entry entry) (found : FirstLoader disk file)
    (chain : FileChain disk file length) :
    Reaches (step code bios) (fun config => ¬InLoader config) entry (fun config =>
      ∃ before, Complete disk file length entry before ∧ Finish.Jumped before config) := by
  refine ((file_complete honours succeeds entered found chain).mono good_outside
    (fun _ => id)).bind ?_
  intro config complete
  have ready := complete.atEnd.ready
  exact .next (zero_outside ready.cs)
    (.here ⟨config, complete, Finish.far_jump ready.fault ready.cs complete.atEnd.ip⟩)

/-- The file's sectors lie from 10000h on in file order. -/
def InOrder (disk : Disk) (file length : Nat) (config : Config) : Prop :=
  ∀ position < length, ∀ index < 512, config.machine.memory (0x10000 + 512 * position + index) =
    disk (512 * (fileCluster disk file position + 31) + index)

theorem Complete.in_order (chain : FileChain disk file length)
    (complete : Complete disk file length entry config) (fits : length ≤ 128) :
    InOrder disk file length config := by
  intro position within index bound
  obtain ⟨ax, dx, log⟩ := complete.log
  rw [complete.segment _ (by omega) (by omega), log, completed_append, replay_append]
  exact loop_memory (chain_small chain) fits _ within bound

/-- What a boot has done on entering the loader. -/
structure Booted (disk : Disk) (file length : Nat) (config : Config) : Prop where
  jumped : InLoader config
  data : dataReads config.log = fileReads disk file length
  once : ∀ position < length, ∀ later < length,
    fileCluster disk file position = fileCluster disk file later → position = later
  succeeded : ∀ call request failed, .read call request failed ∈ config.log → failed = false
  others : ∀ call request failed, .read call request failed ∈ config.log →
    call.back ≠ loadReturn → ∀ address, request.Covers address →
      0x8000 ≤ address ∧ address < 0x8400
  memory : length ≤ 128 → InOrder disk file length config

/-- The boot sector loads every file whose chain is sound, each cluster once
and in order, and enters it. -/
theorem boot_loads_file (honours : Honours bios disk) (succeeds : Succeeds bios)
    (entered : Start.Entry entry) (found : FirstLoader disk file)
    (chain : FileChain disk file length) :
    Reaches (step code bios) (fun config => ¬InLoader config) entry
      (Booted disk file length) := by
  refine (file_entered honours succeeds entered found chain).mono (fun _ => id) ?_
  rintro config ⟨before, complete, jumped⟩
  constructor
  · exact ⟨jumped.cs, jumped.ip⟩
  · rw [jumped.log]
    exact complete.data_reads chain
  · intro position bound later bound' same
    rcases Nat.lt_trichotomy position later with less | equal | greater
    · exact absurd same ((chain.ends (by decide)).distinct less bound'.le)
    · exact equal
    · exact absurd same.symm ((chain.ends (by decide)).distinct greater bound.le)
  · intro call request failed listed
    rw [jumped.log] at listed
    exact (complete.reads call request failed listed).1
  · intro call request failed listed other address covered
    rw [jumped.log] at listed
    obtain ⟨_, position, _, member⟩ := complete.reads call request failed listed
    exact other_reads_buffer member other covered
  · intro fits position within index bound
    rw [jumped.memory]
    exact complete.in_order chain fits position within index bound

theorem boot_loads_three_sectors :
    Reaches (step code (floppyBios (sequential 3) fun _ => 0)) (fun config => ¬InLoader config)
      (Start.powerOn fun _ => 0) (Booted (sequential 3) 0 3) :=
  boot_loads_file (floppy_bios_honours _ _) (floppy_bios_succeeds _) (Start.power_on_entry _)
    (formatted_first_loader _ _) (sequential_chain (by decide) (by decide))

end WholeBoot

section Overwriting

theorem stays_in_loader (inside : InLoader config) (count : Nat) :
    (step code bios)^[count] config = config := by
  apply Function.iterate_fixed
  apply step_outside
  apply Finish.unknown_code
  rw [inside.1]
  decide

theorem in_loader_unique {count count' : Nat}
    (before : ∀ earlier < count, ¬InLoader ((step code bios)^[earlier] entry))
    (inside : InLoader ((step code bios)^[count] entry))
    (inside' : InLoader ((step code bios)^[count'] entry)) :
    (step code bios)^[count'] entry = (step code bios)^[count] entry := by
  have late : count ≤ count' := by
    by_contra early
    exact before count' (Nat.lt_of_not_le early) inside'
  rw [← Nat.sub_add_cancel late, Function.iterate_add_apply, stays_in_loader inside]

/-- From the 129th sector on the load offset has wrapped: memory at 20000h is
what it was before the boot. -/
theorem long_file_overwritten (honours : Honours bios disk) (succeeds : Succeeds bios)
    (entered : Start.Entry entry) (found : FirstLoader disk file)
    (chain : FileChain disk file length) (long : 128 < length)
    (stale : entry.machine.memory 0x20000 ≠ disk (512 * (fileCluster disk file 128 + 31))) :
    ∃ count, InLoader ((step code bios)^[count] entry) ∧
      ¬InOrder disk file length ((step code bios)^[count] entry) := by
  obtain ⟨count, _, before, complete, jumped⟩ := file_entered honours succeeds entered found chain
  refine ⟨count, ⟨jumped.cs, jumped.ip⟩, fun ordered => stale ?_⟩
  have kept := RunSafety.memory_kept honours entered (show 0x7c00 ≤ 0x20000 by decide) (by decide)
    (by unfold Footprint; omega) count
  rw [← kept]
  exact ordered 128 long 0 (by decide)

/-- No sector of the loader overwrites another exactly if it has at most 128. -/
theorem loaded_in_order_iff (found : FirstLoader disk file) (chain : FileChain disk file length) :
    (∀ bios entry count, Honours bios disk → Succeeds bios → Start.Entry entry →
      InLoader ((step code bios)^[count] entry) →
        InOrder disk file length ((step code bios)^[count] entry)) ↔ length ≤ 128 := by
  constructor
  · intro ordered
    by_contra long
    have differs : disk (512 * (fileCluster disk file 128 + 31)) + 1 ≠
        disk (512 * (fileCluster disk file 128 + 31)) := by simp
    obtain ⟨count, inside, disordered⟩ :=
      long_file_overwritten (floppy_bios_honours disk fun _ => 0) (floppy_bios_succeeds disk)
        (Start.power_on_entry fun _ => disk (512 * (fileCluster disk file 128 + 31)) + 1) found
        chain (Nat.lt_of_not_le long) differs
    exact disordered (ordered _ _ count (floppy_bios_honours disk _) (floppy_bios_succeeds disk)
      (Start.power_on_entry _) inside)
  · intro fits bios entry count honours succeeds entered inside
    obtain ⟨arrival, outside, before, complete, jumped⟩ :=
      file_entered honours succeeds entered found chain
    rw [in_loader_unique outside ⟨jumped.cs, jumped.ip⟩ inside]
    intro position within index bound
    rw [jumped.memory]
    exact complete.in_order chain fits position within index bound

theorem loaded_in_order_iff_sequential :
    (∀ bios entry count, Honours bios (sequential 128) → Succeeds bios → Start.Entry entry →
      InLoader ((step code bios)^[count] entry) →
        InOrder (sequential 128) 0 128 ((step code bios)^[count] entry)) ↔ 128 ≤ 128 :=
  loaded_in_order_iff (formatted_first_loader _ _) (sequential_chain (by decide) (by decide))

/-- A loader of 129 sectors, entered with memory at 20000h as the boot found it. -/
theorem long_loader_out_of_order :
    FirstLoader (sequential 129) 0 ∧ FileChain (sequential 129) 0 129 ∧
      ∃ count, InLoader ((step code (floppyBios (sequential 129) fun _ => 0))^[count]
          (Start.powerOn fun _ => 1)) ∧
        ¬InOrder (sequential 129) 0 129
          ((step code (floppyBios (sequential 129) fun _ => 0))^[count]
            (Start.powerOn fun _ => 1)) := by
  have found : FirstLoader (sequential 129) 0 := formatted_first_loader _ _
  have chain : FileChain (sequential 129) 0 129 := sequential_chain (by decide) (by decide)
  refine ⟨found, chain, long_file_overwritten (floppy_bios_honours _ _) (floppy_bios_succeeds _)
    (Start.power_on_entry _) found chain (by decide) ?_⟩
  rw [sequential_cluster (by decide) (by decide)]
  decide

end Overwriting

end BootSector.FileLoading
