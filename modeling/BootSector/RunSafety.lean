import BootSector.Refinement

/-!
# What every run keeps to

Over every disk image and every pattern of failing reads: the requests are
well formed, the stack stays within sixteen bytes, and nothing outside the
working memory is written.
-/

namespace BootSector.RunSafety

open RealMode Bios Program Floppy Execution Assertion Loader Refinement

variable {bios : Services} {disk : Disk} {entry config : Config}

section Requests

def Issues (config : Config) : Prop :=
  config.fault = false ∧ config.machine.isRead ∧
    ∃ next, code config.machine.cs config.machine.ip = some (.int13, next)

/-- One or two sectors, on one track and in one 64 KiB page, into the sector
buffer or the load segment, from the sector in `AX` at the call. -/
structure RequestSound (call : Call) (request : Request) : Prop where
  count : request.count = 1 ∨ request.count = 2
  drive : request.drive = 0
  head : request.head = 0 ∨ request.head = 1
  cylinder : request.cylinder ≤ 127
  sector : 1 ≤ request.sector
  track : request.sector + request.count - 1 ≤ 18
  target : call.target = readOneSector
  lba : (request.cylinder * 2 + request.head) * 18 + request.sector - 1 = call.ax.toNat
  buffer : (0x8000 ≤ request.start ∧ request.start + 512 * request.count ≤ 0x8400) ∨
    (0x10000 ≤ request.start ∧ request.start + 512 * request.count ≤ 0x20000)
  wraps : request.offset.toNat + 512 * request.count ≤ 65536
  page : request.start / 65536 = (request.start + 512 * request.count - 1) / 65536

theorem of_lba_sound {call : Call} {count lba : Nat} {segment offset : Word}
    (target : call.target = readOneSector) (ax : call.ax = BitVec.ofNat 16 lba)
    (small : lba < 4608) (counted : count = 1 ∨ count = 2) (track : lba % 18 + count ≤ 18)
    (buffer : (segment = 0#16 ∧ offset = 0x8000#16) ∨
      (segment = baseOfLoader ∧ count = 1 ∧ offset.toNat % 512 = 0)) :
    RequestSound call (.ofLba count lba segment offset) := by
  have bound := offset.isLt
  have place : (physical segment offset = 0x8000 ∧ offset.toNat = 0x8000) ∨
      (physical segment offset = 0x10000 + offset.toNat ∧ count = 1 ∧ offset.toNat % 512 = 0) := by
    rcases buffer with ⟨rfl, rfl⟩ | ⟨rfl, single, aligned⟩
    · exact .inl ⟨rfl, rfl⟩
    · exact .inr ⟨by simp [physical, baseOfLoader], single, aligned⟩
  constructor
  · exact counted
  · rfl
  · simp only [Request.ofLba]
    omega
  · simp only [Request.ofLba]
    omega
  · simp only [Request.ofLba]
    omega
  · simp only [Request.ofLba]
    omega
  · exact target
  · rw [ax, BitVec.toNat_ofNat]
    simp only [Request.ofLba]
    omega
  · simp only [Request.ofLba, Request.start]
    omega
  · simp only [Request.ofLba]
    omega
  · simp only [Request.ofLba, Request.start]
    omega

theorem reads_sound {phase : Phase} (valid : phase.Valid disk) {read : Call × Request}
    (listed : read ∈ phase.reads) : RequestSound read.1 read.2 := by
  rcases Phase.reads_cases listed with ⟨sector, rfl, more, rfl⟩ |
    ⟨cluster, count, rfl, small, rfl⟩ | ⟨cluster, count, rfl, small, rfl⟩
  · have within : sector ≤ 14 := valid.1
    exact of_lba_sound rfl rfl (by omega) (.inl rfl) (by omega) (.inl ⟨rfl, rfl⟩)
  · refine of_lba_sound rfl rfl small (.inl rfl) (by omega) (.inr ⟨rfl, rfl, ?_⟩)
    rw [BitVec.toNat_ofNat]
    omega
  · have sector := GetFATEntry.fat_sector_le small
    exact of_lba_sound rfl rfl (by omega) (.inr rfl) (by omega) (.inl ⟨rfl, rfl⟩)

theorem reads_allowed {floor : Nat} {allowed : Allowed} (entered : Start.Entry entry)
    (safe : Forever (step code bios) (Safe floor allowed) entry) (count : Nat) :
    ∀ call request failed, .read call request failed ∈ ((step code bios)^[count] entry).log →
      allowed.read call request := by
  induction count with
  | zero =>
      intro call request failed listed
      rw [Function.iterate_zero, id_eq, entered.log] at listed
      cases listed
  | succ count ih =>
      intro call request failed listed
      rw [Function.iterate_succ_apply'] at listed
      rcases read_logged listed with old | ⟨fault, rfl, instr, next, fetched, asks⟩
      · exact ih call request failed old
      · exact (((safe count fault).2 instr next fetched).2.2.1 request asks).1

/-- Whatever is on the disk and however its reads go, every request is well
formed and names the sector its caller asked for. -/
theorem requests_well_formed (honours : Honours bios disk) (entered : Start.Entry entry) :
    Forever (step code bios) (fun config => Issues config →
      RequestSound config.call config.machine.request ∧
        (lowByte config.machine.cx).toNat / 64 = 0) entry := by
  have safe : Forever (step code bios) (Safe 0x7bf0 ⟨RequestSound, fun _ => True⟩) entry :=
    run_safe honours entered (fun position => permits_reads
      (fun _ listed => reads_sound (phase_at_valid disk position) listed))
  refine Forever.mono ?_ safe
  rintro config line ⟨fault, reads, next, fetched⟩
  have asks := ((line fault).2 _ _ fetched).2.2.1
  have sound := (asks config.machine.request (by simp [Machine.asks, reads])).1
  have cylinder := sound.cylinder
  simp only [Machine.request] at cylinder
  exact ⟨sound, by omega⟩

theorem requests_well_formed_three_sectors :
    Forever (step code (floppyBios (sequential 3) fun read => read)) (fun config => Issues config →
      RequestSound config.call config.machine.request ∧
        (lowByte config.machine.cx).toNat / 64 = 0) (Start.powerOn fun _ => 0) :=
  requests_well_formed (floppy_bios_honours _ _) (Start.power_on_entry _)

end Requests

section Footprint

variable {floor : Nat} {allowed : Allowed} {address : Nat}

/-- A step from a safe state writes nothing outside the working memory, unless
a service does. -/
theorem step_frame_of (safe : Safe floor allowed config) (outside : ¬Footprint floor address)
    (video : config.machine.ss = 0#16 → config.machine.sp.toNat ≤ 0x7c00 →
      (bios.video config.log config.machine).memory address = config.machine.memory address)
    (drive : config.machine.ss = 0#16 → config.machine.sp.toNat ≤ 0x7c00 →
      (config.machine.isRead → ¬config.machine.request.Covers address) →
        (bios.disk config.log config.machine).memory address = config.machine.memory address) :
    (step code bios config).machine.memory address = config.machine.memory address := by
  cases fault : config.fault with
  | true => rw [step_faulted fault]
  | false =>
      cases fetched : code config.machine.cs config.machine.ip with
      | none => rw [step_outside fetched]
      | some line =>
          obtain ⟨instr, next⟩ := line
          obtain ⟨stores, _, asks, hands⟩ := (safe fault).2 instr next fetched
          have kept := config.machine.execute_frame next instr address
            (fun stored => outside (stores address stored))
          simp only [step, fault, fetched, perform]
          cases faults : config.machine.faults instr with
          | true => rfl
          | false =>
              cases instr with
              | int10 =>
                  obtain ⟨ss, sp⟩ := hands rfl
                  exact video ss sp
              | int13 =>
                  obtain ⟨ss, sp⟩ := hands rfl
                  refine drive ss sp (fun reads covers => ?_)
                  have request := asks config.machine.request (by simp [Machine.asks, reads])
                  exact outside (request.2 address covers)
              | _ => exact kept

theorem step_frame (honours : Honours bios disk) (safe : Safe floor allowed config)
    (lower : 0x7c00 ≤ address) (upper : address < 0xa0000)
    (outside : ¬Footprint floor address) :
    (step code bios config).machine.memory address = config.machine.memory address := by
  have owned : config.machine.ss = 0#16 → config.machine.sp.toNat ≤ 0x7c00 →
      Owned config.machine address := by
    intro ss sp
    refine ⟨?_, upper⟩
    rw [ss, physical_zero]
    omega
  apply step_frame_of safe outside
  · intro ss sp
    exact (honours.video config.log config.machine).memory address (owned ss sp)
  · intro ss sp uncovered
    cases reads : config.machine.isRead with
    | false => exact (honours.other config.log _ reads).memory address (owned ss sp)
    | true =>
        exact (honours.read config.log _ reads).memory address (owned ss sp) (uncovered reads)

/-- Memory outside the footprint stays as it was loaded throughout the run. -/
theorem memory_kept (honours : Honours bios disk) (entered : Start.Entry entry)
    (lower : 0x7c00 ≤ address) (upper : address < 0xa0000)
    (outside : ¬Footprint 0x7bf0 address) (count : Nat) :
    ((step code bios)^[count] entry).machine.memory address = entry.machine.memory address := by
  have safe : Forever (step code bios) (Safe 0x7bf0 .any) entry :=
    run_safe honours entered (fun _ => permits_any _)
  induction count with
  | zero => rfl
  | succ count ih =>
      rw [Function.iterate_succ_apply', step_frame honours (safe count) lower upper outside]
      exact ih

def ChainCluster (disk : Disk) (cluster : Word) : Prop :=
  ∃ file count, FirstLoader disk file ∧ cluster = BitVec.ofNat 16 (fileCluster disk file count)

/-- The stack discipline at the labels, the reach of every write, and the
memory that therefore stays as it was loaded. -/
structure Disciplined (disk : Disk) (entry config : Config) : Prop where
  labels : config.fault = false → LabelSafe ⟨fun _ _ => True, ChainCluster disk⟩ config
  writes : config.fault = false → ∀ instr next,
    code config.machine.cs config.machine.ip = some (instr, next) →
      (∀ address ∈ config.machine.stores instr, Footprint 0x7bf0 address) ∧
      (∀ lower ∈ config.machine.lowered instr, 0x7bf0 ≤ lower.toNat) ∧
      ∀ request ∈ config.machine.asks instr, ∀ address, request.Covers address →
        Footprint 0x7bf0 address
  kept : ∀ address, 0x7c00 ≤ address → address < 0xa0000 → ¬Footprint 0x7bf0 address →
    config.machine.memory address = entry.machine.memory address

/-- Every run keeps the stack in sixteen bytes and writes only its stack, its
variables, the sector buffer and the load segment. -/
theorem stack_and_footprint (honours : Honours bios disk) (entered : Start.Entry entry) :
    Forever (step code bios) (Disciplined disk entry) entry := by
  have safe : Forever (step code bios) (Safe 0x7bf0 ⟨fun _ _ => True, ChainCluster disk⟩) entry :=
    run_safe honours entered
      (permits_clusters (fun file count found => ⟨file, count, found, rfl⟩))
  intro count
  exact
    { labels := fun fault => (safe count fault).1
      writes := fun fault instr next fetched => by
        obtain ⟨stores, lowered, asks, _⟩ := (safe count fault).2 instr next fetched
        exact ⟨stores, fun lower listed => (lowered lower listed).1,
          fun request listed => (asks request listed).2⟩
      kept := fun _ lower upper outside => memory_kept honours entered lower upper outside count }

theorem stack_and_footprint_three_sectors :
    Forever (step code (floppyBios (sequential 3) fun read => read))
      (Disciplined (sequential 3) (Start.powerOn fun _ => 0)) (Start.powerOn fun _ => 0) :=
  stack_and_footprint (floppy_bios_honours _ _) (Start.power_on_entry _)

end Footprint

end BootSector.RunSafety
