import BootSector.FileLoading

/-!
# The load segment

The 64 KiB the loader is loaded into, for files of any length: the load offset
wraps, and each block of 512 bytes keeps the last sector that went there.
-/

namespace BootSector.LoadSegment

open RealMode Bios Program Floppy Execution Assertion Loader Refinement LoadFile FileLoading

variable {bios : Services} {disk : Disk} {entry config : Config} {file length : Nat}

section Replays

/-- The last of `length` turns that loads into a block, if one does. -/
def lastTurn (length block : Nat) : Option Nat :=
  if block < length then some (block + 128 * ((length - 1 - block) / 128)) else none

theorem last_turn_succ {block : Nat} (bound : block < 128) :
    lastTurn (length + 1) block =
      if block = length % 128 then some length else lastTurn length block := by
  by_cases here : block = length % 128
  · have last : block + 128 * ((length + 1 - 1 - block) / 128) = length := by omega
    rw [if_pos here, lastTurn, if_pos (by omega), last]
  · rw [if_neg here]
    by_cases before : block < length
    · have same : (length + 1 - 1 - block) / 128 = (length - 1 - block) / 128 := by omega
      rw [lastTurn, lastTurn, if_pos before, if_pos (by omega), same]
    · rw [lastTurn, lastTurn, if_neg before, if_neg (by omega)]

theorem turn_wraps (cluster turn : Nat) :
    completed (turnLog cluster turn) = completed (turnLog cluster (turn % 128)) := by
  have offset : BitVec.ofNat 16 (512 * turn) = BitVec.ofNat 16 (512 * (turn % 128)) := by
    apply BitVec.eq_of_toNat_eq
    rw [BitVec.toNat_ofNat, BitVec.toNat_ofNat]
    omega
  have request : dataRequest cluster turn = dataRequest cluster (turn % 128) := by
    rw [dataRequest, dataRequest, offset]
  have reads : ∀ position, completed (turnLog cluster position) =
      [(dataCall cluster, dataRequest cluster position),
        (GetFATEntry.fatCall cluster, GetFATEntry.fatRequest cluster)] := fun _ => rfl
  rw [reads, reads, request]

/-- A turn writes the block its position falls on, modulo 128. -/
theorem turn_block {cluster turn block index : Nat} (small : cluster < 4577) (memory : Memory)
    (bound : block < 128) (within : index < 512) :
    replay disk memory (completed (turnLog cluster turn)) (0x10000 + 512 * block + index) =
      if block = turn % 128 then disk (512 * (cluster + 31) + index)
      else memory (0x10000 + 512 * block + index) := by
  rw [turn_wraps]
  exact turn_memory small (Nat.mod_lt _ (by decide)) memory bound within

theorem loop_block (small : firstCluster disk file < 4577) (memory : Memory) {block index : Nat}
    (bound : block < 128) (within : index < 512) :
    replay disk memory (completed (loopLog disk file length)) (0x10000 + 512 * block + index) =
      (lastTurn length block).elim (memory (0x10000 + 512 * block + index)) fun turn =>
        disk (512 * (fileCluster disk file turn + 31) + index) := by
  induction length with
  | zero => rfl
  | succ length ih =>
      rw [loop_log_succ, completed_append, replay_append,
        turn_block (file_cluster_small small length) _ bound within, last_turn_succ bound]
      split_ifs with here
      · rfl
      · exact ih

theorem replay_outside {address : Nat} {reads : List (Call × Request)}
    (outside : ∀ read ∈ reads, ¬read.2.Covers address) (memory : Memory) :
    replay disk memory reads address = memory address := by
  induction reads generalizing memory with
  | nil => rfl
  | cons read reads ih =>
      rw [replay_cons, ih (fun other listed => outside other (List.mem_cons_of_mem _ listed)),
        deliver_outside (outside read List.mem_cons_self)]

theorem search_outside {address : Nat} (high : 0x8200 ≤ address) (memory : Memory)
    (sectors : Nat) : replay disk memory (completed (searchLog sectors)) address =
      memory address := by
  apply replay_outside
  intro read listed
  obtain ⟨event, member, same⟩ := List.mem_filterMap.mp listed
  obtain ⟨sector, -, rfl⟩ := List.mem_map.mp member
  cases same
  rw [Search.root_request_covers]
  omega

end Replays

/-- Memory from the load segment up, on entering the loader: each block holds
the last sector loaded into it, or what it held before. -/
structure SegmentLoaded (disk : Disk) (file length : Nat) (entry config : Config) : Prop where
  blocks : ∀ block < 128, ∀ index < 512,
    config.machine.memory (0x10000 + 512 * block + index) =
      (lastTurn length block).elim (entry.machine.memory (0x10000 + 512 * block + index))
        fun turn => disk (512 * (fileCluster disk file turn + 31) + index)
  above : ∀ address, 0x20000 ≤ address → address < 0xa0000 →
    config.machine.memory address = entry.machine.memory address

theorem complete_segment (chain : FileChain disk file length)
    (complete : Complete disk file length entry config) :
    SegmentLoaded disk file length entry config := by
  obtain ⟨ax, dx, log⟩ := complete.log
  have start : completed (Start.startLog ax dx) = [] := rfl
  have replayed : ∀ address, 0x10000 ≤ address → address < 0xa0000 →
      config.machine.memory address = replay disk
        (replay disk entry.machine.memory (completed (searchLog (file / 16 + 1))))
        (completed (loopLog disk file length)) address := by
    intro address lower upper
    rw [complete.segment address lower upper, log, completed_append, completed_append, start,
      List.nil_append, replay_append]
  constructor
  · intro block bound index within
    rw [replayed _ (by omega) (by omega), loop_block (chain_small chain) _ bound within,
      search_outside (by omega)]
  · intro address lower upper
    rw [replayed _ (by omega) upper, replay_outside, search_outside (by omega)]
    intro read listed
    obtain ⟨event, member, same⟩ := List.mem_filterMap.mp listed
    obtain ⟨position, -, turn⟩ := List.mem_flatMap.mp member
    simp only [turnLog, List.mem_cons, List.not_mem_nil, or_false] at turn
    rcases turn with rfl | rfl | rfl
    · cases same
    · cases same
      rw [data_request_covers]
      omega
    · cases same
      rw [GetFATEntry.fat_request_covers]
      omega

/-- What a file of any length leaves in memory. -/
theorem segment_loaded (honours : Honours bios disk) (succeeds : Succeeds bios)
    (entered : Start.Entry entry) (found : FirstLoader disk file)
    (chain : FileChain disk file length) :
    Reaches (step code bios) (fun config => ¬InLoader config) entry (fun config =>
      InLoader config ∧ SegmentLoaded disk file length entry config) := by
  refine (file_entered honours succeeds entered found chain).mono (fun _ => id) ?_
  rintro config ⟨before, complete, jumped⟩
  have loaded := complete_segment chain complete
  refine ⟨⟨jumped.cs, jumped.ip⟩, ?_, ?_⟩
  · rw [jumped.memory]
    exact loaded.blocks
  · rw [jumped.memory]
    exact loaded.above

theorem long_file_segment_loaded :
    Reaches (step code (floppyBios (sequential 129) fun _ => 0)) (fun config => ¬InLoader config)
      (Start.powerOn fun _ => 0) (fun config => InLoader config ∧
        SegmentLoaded (sequential 129) 0 129 (Start.powerOn fun _ => 0) config) :=
  segment_loaded (floppy_bios_honours _ _) (floppy_bios_succeeds _) (Start.power_on_entry _)
    (formatted_first_loader _ _) (sequential_chain (by decide) (by decide))

end BootSector.LoadSegment
