import BootSector.FloppyController

/-!
# Sectors between the diskette and memory

What a read and a write of several sectors do, from the command to the result:
one sector goes through the DMA channel at a time, across tracks and cylinders.
-/

namespace BootSector.SectorTransfers

open RealMode Extents FloppyController

variable {devices : Devices} {media : Media} {disk : Nat → Byte}

section Reads

variable {transfer : Transfer} {done : Nat} {memory : Memory} {fdc : Controller}
  {writeProtected : Bool} {eot : Byte}

/-- Memory with the first sectors in place, as far as the disk has them and
there is memory for them. -/
structure Delivered (disk : Nat → Byte) (memory : Memory) (transfer : Transfer) (sectors : Nat)
    (memory' : Memory) : Prop where
  inside : ∀ index < 512 * sectors, 512 * transfer.lba + index < 512 * 2880 →
    Devices.Ram (transfer.place + index) →
      memory' (transfer.place + index) = disk (512 * transfer.lba + index)
  outside : ∀ address,
    ¬(transfer.place ≤ address ∧ address < transfer.place + 512 * sectors) →
      memory' address = memory address

/-- The read goes on after `done` of its sectors, with the next in the buffer. -/
structure Underway (writeProtected : Bool) (disk : Nat → Byte) (memory : Memory)
    (transfer : Transfer) (done : Nat) (devices : Devices) : Prop where
  phase : devices.fdc.phase = .reading
  media : devices.fdc.media = some (floppy144 writeProtected disk)
  advanced : Advanced transfer done devices.fdc
  buffer : ∀ index, devices.fdc.buffer index = disk (512 * devices.fdc.lba + index)
  channel : Open 0x46 transfer done devices.channel
  memory : Delivered disk memory transfer done devices.memory

structure Fetched (writeProtected : Bool) (disk : Nat → Byte) (memory : Memory)
    (transfer : Transfer) (devices : Devices) : Prop where
  succeeded : Succeeded devices.fdc
  media : devices.fdc.media = some (floppy144 writeProtected disk)
  memory : Delivered disk memory transfer transfer.count devices.memory

theorem dma_write_next (empty : fdc.bufferIndex = 0) : fdc.dmaWrite media 512 false =
    { fdc.incrementSector media with bufferIndex := 0, terminalCount := false }.fromFloppy media
      (media.logicalSector (fdc.incrementSector media).cylinder (fdc.incrementSector media).head
        (fdc.incrementSector media).sector) := by
  obtain ⟨cylinder, head, sector, moved, elsewhere⟩ := increment_moves fdc media
  simp only [Controller.dmaWrite, empty, Nat.zero_add, le_refl, if_true, Bool.false_eq_true,
    if_false, moved, elsewhere]

theorem transfer_sector (begins : transfer.Begins) (more : done < transfer.count)
    (underway : Underway writeProtected disk memory transfer done devices) :
    devices.timer =
      { fdc := devices.fdc.dmaWrite (floppy144 writeProtected disk) 512
          (done + 1 == transfer.count)
        channel := devices.channel.advance 512
        memory :=
          Devices.writeDma devices.memory devices.channel.place 512 devices.fdc.buffer } := by
  obtain ⟨maxlen, terminal⟩ := open_terminal underway.channel begins more
  simp only [Devices.timer, underway.phase, underway.media, Devices.setDrq,
    underway.channel.masked, Devices.raiseHlda, underway.channel.mode, maxlen, terminal,
    underway.advanced.bufferIndex, Nat.sub_zero, Nat.zero_add, min_self, beq_self_eq_true,
    Bool.and_true, Bool.false_eq_true, if_true, if_false]

theorem sector_delivered
    (underway : Underway writeProtected disk memory transfer done devices) :
    Delivered disk memory transfer (done + 1)
      (Devices.writeDma devices.memory devices.channel.place 512 devices.fdc.buffer) := by
  have position := underway.advanced.position.lba
  rw [open_place underway.channel]
  constructor
  · intro index bound on ram
    rw [Devices.writeDma, if_pos ram, replace, underway.buffer]
    split_ifs with now
    · exact congrArg disk (by omega)
    · exact underway.memory.inside index (by omega) on ram
  · intro address out
    rw [write_dma_outside (by omega)]
    exact underway.memory.outside address (by omega)

theorem underway_timer (begins : transfer.Begins) (more : done + 1 < transfer.count)
    (underway : Underway writeProtected disk memory transfer done devices) :
    Underway writeProtected disk memory transfer (done + 1) devices.timer := by
  have same := transfer_sector begins (by omega) underway
  have delivered := sector_delivered underway
  have goes : (done + 1 == transfer.count) = false := by simpa using more.ne
  have advanced := advanced_next writeProtected disk underway.advanced more
  have sector : (floppy144 writeProtected disk).logicalSector _ _ _ = _ :=
    advanced.position.logical_sector
  rw [same, goes, dma_write_next underway.advanced.bufferIndex, sector]
  obtain ⟨cylinder, head, sector, moved, -⟩ :=
    increment_moves devices.fdc (floppy144 writeProtected disk)
  rw [moved] at advanced ⊢
  exact
    { phase := underway.phase
      media := underway.media
      advanced := advanced.elsewhere ..
      buffer := fun _ => rfl
      channel := open_next underway.channel begins more
      memory := delivered }

theorem last_timer (begins : transfer.Begins) (last : done + 1 = transfer.count)
    (underway : Underway writeProtected disk memory transfer done devices) :
    Fetched writeProtected disk memory transfer devices.timer := by
  have same := transfer_sector begins (by omega) underway
  have delivered := sector_delivered underway
  have head := increment_head (floppy144 writeProtected disk) underway.advanced.position.head
  obtain ⟨cylinder, side, sector, moved, elsewhere⟩ :=
    increment_moves devices.fdc (floppy144 writeProtected disk)
  rw [moved] at head
  rw [same]
  simp only [last, beq_self_eq_true, Controller.dmaWrite, underway.advanced.bufferIndex,
    Nat.zero_add, le_refl, if_true, elsewhere]
  exact ⟨normal_succeeded head, underway.media, last ▸ delivered⟩

/-- A read that began comes to its end, sector by sector. -/
theorem read_completed (begins : transfer.Begins)
    (begun : Underway writeProtected disk memory transfer 0 devices) :
    Fetched writeProtected disk memory transfer (Devices.timer^[transfer.count] devices) := by
  have reached : ∀ done < transfer.count,
      Underway writeProtected disk memory transfer done (Devices.timer^[done] devices) := by
    intro done
    induction done with
    | zero => exact fun _ => begun
    | succ done ih =>
        intro more
        rw [Function.iterate_succ_apply']
        exact underway_timer begins more (ih (by omega))
  obtain ⟨count, same⟩ := Nat.exists_eq_add_of_le' begins.positive
  have final : Devices.timer^[transfer.count] devices = (Devices.timer^[count] devices).timer := by
    rw [same, Function.iterate_succ_apply']
  rw [final]
  exact last_timer begins same.symm (reached count (by omega))

theorem read_begins (begins : transfer.Begins) (loaded : Loaded writeProtected disk devices.fdc)
    (empty : devices.fdc.bufferIndex = 0)
    (last : eot.toNat = transfer.sector.toNat + transfer.count - 1)
    (channel : devices.channel = ⟨transfer.page, transfer.address,
      BitVec.ofNat 16 (512 * transfer.count - 1), 0x46, false⟩) :
    Underway writeProtected disk devices.memory transfer 0 (devices.floppyCommand
      (driveCommand 0xe6 transfer.cylinder transfer.head transfer.sector eot)) := by
  obtain ⟨fdc', begun, media, advanced⟩ :=
    command_advanced 0xe6 (by decide) begins loaded empty last
  have reading : fdc'.begin 0xe6 (floppy144 writeProtected disk) =
      { fdc' with phase := .reading }.fromFloppy (floppy144 writeProtected disk) fdc'.lba := by
    rw [Controller.begin, if_pos (by decide), advanced.position.logical_sector]
  have waits : (devices.fdc.floppyCommand (driveCommand 0xe6 transfer.cylinder transfer.head
      transfer.sector eot)).phase ≠ .writing := by
    rw [begun, reading]
    exact Phase.noConfusion
  rw [command_waits waits, begun, reading]
  exact
    { phase := rfl
      media := media
      advanced := advanced.elsewhere ..
      buffer := fun _ => rfl
      channel := channel ▸ channel_open begins 0x46
      memory := ⟨fun _ bound => absurd bound (Nat.not_lt_zero _), fun _ _ => rfl⟩ }

end Reads

section Writes

variable {transfer : Transfer} {done lba : Nat} {memory : Memory} {fdc : Controller}
  {content : Nat → Byte} {writeProtected : Bool} {eot : Byte}

def recorded (transfer : Transfer) (disk : Nat → Byte) (memory : Memory)
    (sectors : Nat) : Nat → Byte :=
  replace disk (512 * transfer.lba) (512 * sectors) fun index => memory (transfer.place + index)

/-- The write goes on after `done` of its sectors. -/
structure Storing (writeProtected : Bool) (disk : Nat → Byte) (memory : Memory)
    (transfer : Transfer) (done : Nat) (content : Nat → Byte) (devices : Devices) : Prop where
  phase : devices.fdc.phase = .writing
  media : devices.fdc.media = some (floppy144 writeProtected content)
  content : Agree (512 * 2880) content (recorded transfer disk memory done)
  advanced : Advanced transfer done devices.fdc
  channel : Open 0x4a transfer done devices.channel
  memory : devices.memory = memory

/-- All is written, which the controller reports when its time has passed. -/
structure Filled (disk : Nat → Byte) (memory : Memory) (transfer : Transfer)
    (content : Nat → Byte) (devices : Devices) : Prop where
  phase : devices.fdc.phase = .writing
  terminalCount : devices.fdc.terminalCount = true
  head : devices.fdc.head.toNat < 2
  media : devices.fdc.media = some (floppy144 false content)
  content : Agree (512 * 2880) content (recorded transfer disk memory transfer.count)
  memory : devices.memory = memory

structure Stored (disk : Nat → Byte) (memory : Memory) (transfer : Transfer)
    (content : Nat → Byte) (devices : Devices) : Prop where
  succeeded : Succeeded devices.fdc
  media : devices.fdc.media = some (floppy144 false content)
  content : Agree (512 * 2880) content (recorded transfer disk memory transfer.count)
  memory : devices.memory = memory

theorem dma_read_sector (empty : fdc.bufferIndex = 0) (place : At lba fdc)
    (content bytes : Nat → Byte) (terminal : Bool) :
    fdc.dmaRead (floppy144 false content) bytes 512 terminal =
      ({ fdc.incrementSector (floppy144 false content) with
          buffer := replace fdc.buffer 0 512 bytes
          bufferIndex := 0
          terminalCount := terminal
          media := some (floppy144 false (replace content (512 * fdc.lba) 512 bytes)) }, 512) := by
  obtain ⟨cylinder, head, sector, moved, elsewhere⟩ :=
    increment_moves fdc (floppy144 false content)
  have same : (floppy144 false content).put fdc.lba (replace fdc.buffer 0 512 bytes) =
      floppy144 false (replace content (512 * fdc.lba) 512 bytes) := by
    have filled : replace content (512 * fdc.lba) 512 (replace fdc.buffer 0 512 bytes) =
        replace content (512 * fdc.lba) 512 bytes := by
      refine replace_congr fun index bound => ?_
      have inside := replace_inside fdc.buffer bytes 0 bound
      rwa [Nat.zero_add] at inside
    simp only [Media.put, floppy144, filled]
  have unprotected : (floppy144 false content).writeProtected = false := rfl
  simp only [Controller.dmaRead, empty, Nat.sub_zero, Nat.zero_add, min_self, le_refl, true_or,
    beq_self_eq_true, Bool.and_true, if_true, unprotected, Bool.false_eq_true, if_false,
    Controller.toFloppy, place.logical_sector, same, moved, elsewhere]

theorem storing_sector (begins : transfer.Begins) (more : done < transfer.count)
    (storing : Storing false disk memory transfer done content devices) :
    devices.setDrq (floppy144 false content) =
      { devices with
        fdc :=
          { devices.fdc.incrementSector (floppy144 false content) with
            buffer := replace devices.fdc.buffer 0 512 fun index =>
              devices.memory (devices.channel.place + index)
            bufferIndex := 0
            terminalCount := done + 1 == transfer.count
            media := some (floppy144 false (replace content (512 * devices.fdc.lba) 512
              fun index => devices.memory (devices.channel.place + index))) }
        channel := devices.channel.advance 512 } := by
  obtain ⟨maxlen, terminal⟩ := open_terminal storing.channel begins more
  have other : ¬(0x4a : Byte) = 0x46 := by decide
  simp only [Devices.setDrq, storing.channel.masked, Bool.false_eq_true, if_false,
    Devices.raiseHlda, storing.channel.mode, other, if_true, maxlen, terminal,
    dma_read_sector storing.advanced.bufferIndex storing.advanced.position]

theorem recorded_next (transfer : Transfer) (disk : Nat → Byte) (memory : Memory) (done : Nat) :
    recorded transfer disk memory (done + 1) =
      replace (recorded transfer disk memory done) (512 * (transfer.lba + done)) 512 fun index =>
        memory (transfer.place + (512 * done + index)) := by
  rw [recorded, recorded, Nat.mul_add, Nat.mul_add]
  exact (replace_replace 512).symm

/-- Behind the disk nothing of it changes. -/
theorem sector_stored
    (storing : Storing false disk memory transfer done content devices) :
    Agree (512 * 2880)
      (replace content (512 * devices.fdc.lba) 512 fun index =>
        devices.memory (devices.channel.place + index))
      (recorded transfer disk memory (done + 1)) := by
  have position := storing.advanced.position.lba
  rw [storing.memory, open_place storing.channel, recorded_next]
  by_cases inside : transfer.lba + done < 2880
  · have here : devices.fdc.lba = transfer.lba + done := by omega
    simp only [here, Nat.add_assoc]
    exact storing.content.replace _ _ _
  · intro address bound
    rw [replace_outside (by omega), replace_outside (by omega)]
    exact storing.content address bound

theorem set_drq_next (begins : transfer.Begins) (more : done + 1 < transfer.count)
    (storing : Storing false disk memory transfer done content devices) : ∃ content',
    Storing false disk memory transfer (done + 1) content'
        (devices.setDrq (floppy144 false content)) ∧
      (devices.setDrq (floppy144 false content)).fdc.terminalCount = false := by
  have goes : (done + 1 == transfer.count) = false := by simpa using more.ne
  have advanced := advanced_next false content storing.advanced more
  obtain ⟨cylinder, head, sector, moved, -⟩ :=
    increment_moves devices.fdc (floppy144 false content)
  rw [storing_sector begins (by omega) storing, goes]
  rw [moved] at advanced ⊢
  exact ⟨_,
    { phase := storing.phase
      media := rfl
      content := sector_stored storing
      advanced := advanced.elsewhere ..
      channel := open_next storing.channel begins more
      memory := storing.memory }, rfl⟩

theorem set_drq_last (begins : transfer.Begins) (last : done + 1 = transfer.count)
    (storing : Storing false disk memory transfer done content devices) : ∃ content',
    Filled disk memory transfer content' (devices.setDrq (floppy144 false content)) := by
  have head := increment_head (floppy144 false content) storing.advanced.position.head
  obtain ⟨cylinder, side, sector, moved, -⟩ :=
    increment_moves devices.fdc (floppy144 false content)
  rw [storing_sector begins (by omega) storing, last, beq_self_eq_true]
  rw [moved] at head ⊢
  exact ⟨_,
    { phase := storing.phase
      terminalCount := rfl
      head := head
      media := rfl
      content := last ▸ sector_stored storing
      memory := storing.memory }⟩

theorem storing_timer (storing : Storing writeProtected disk memory transfer done content devices)
    (goes : devices.fdc.terminalCount = false) :
    devices.timer = devices.setDrq (floppy144 writeProtected content) := by
  simp only [Devices.timer, storing.phase, storing.media, goes, Bool.false_eq_true, if_false]

theorem filled_timer (filled : Filled disk memory transfer content devices) :
    Stored disk memory transfer content devices.timer := by
  have done : devices.timer = { devices with fdc := devices.fdc.normal } := by
    simp only [Devices.timer, filled.phase, filled.media, filled.terminalCount, if_true]
  rw [done]
  exact ⟨normal_succeeded filled.head, filled.media, filled.content, filled.memory⟩

/-- A write that began comes to its end, sector by sector. -/
theorem write_completed (begins : transfer.Begins)
    (begun : Storing false disk memory transfer 0 content devices) : ∃ content',
    Stored disk memory transfer content'
      (Devices.timer^[transfer.count] (devices.setDrq (floppy144 false content))) := by
  have reached : ∀ done < transfer.count,
      (done + 1 < transfer.count → ∃ content', Storing false disk memory transfer (done + 1)
          content' (Devices.timer^[done] (devices.setDrq (floppy144 false content))) ∧
        (Devices.timer^[done] (devices.setDrq (floppy144 false content))).fdc.terminalCount =
          false) ∧
      (done + 1 = transfer.count → ∃ content', Filled disk memory transfer content'
        (Devices.timer^[done] (devices.setDrq (floppy144 false content)))) := by
    intro done
    induction done with
    | zero => exact fun _ => ⟨fun more => set_drq_next begins more begun,
        fun last => set_drq_last begins last begun⟩
    | succ done ih =>
        intro before
        obtain ⟨content', storing, goes⟩ := (ih (by omega)).1 before
        rw [Function.iterate_succ_apply', storing_timer storing goes]
        exact ⟨fun more => set_drq_next begins more storing,
          fun last => set_drq_last begins last storing⟩
  obtain ⟨count, same⟩ := Nat.exists_eq_add_of_le' begins.positive
  obtain ⟨content', filled⟩ := (reached count (by omega)).2 same.symm
  have final : Devices.timer^[transfer.count] (devices.setDrq (floppy144 false content)) =
      (Devices.timer^[count] (devices.setDrq (floppy144 false content))).timer := by
    rw [same, Function.iterate_succ_apply']
  rw [final]
  exact ⟨content', filled_timer filled⟩

/-- A write-protected diskette refuses the first sector, and keeps what it has. -/
theorem write_protected (begins : transfer.Begins)
    (begun : Storing true disk memory transfer 0 content devices) :
    Erred 0x27 (devices.setDrq (floppy144 true content)).fdc ∧
      (devices.setDrq (floppy144 true content)).fdc.media = some (floppy144 true content) ∧
      (devices.setDrq (floppy144 true content)).memory = memory := by
  obtain ⟨maxlen, -⟩ := open_terminal begun.channel begins begins.positive
  have other : ¬(0x4a : Byte) = 0x46 := by decide
  have tab : (floppy144 true content).writeProtected = true := rfl
  simp only [Devices.setDrq, begun.channel.masked, Bool.false_eq_true, if_false,
    Devices.raiseHlda, begun.channel.mode, other, if_true, maxlen, Controller.dmaRead,
    begun.advanced.bufferIndex, Nat.sub_zero, Nat.zero_add, min_self, le_refl, true_or, tab]
  exact ⟨abnormal_erred .., begun.media, begun.memory⟩

theorem write_begins (begins : transfer.Begins) (loaded : Loaded writeProtected disk devices.fdc)
    (empty : devices.fdc.bufferIndex = 0)
    (last : eot.toNat = transfer.sector.toNat + transfer.count - 1)
    (channel : devices.channel = ⟨transfer.page, transfer.address,
      BitVec.ofNat 16 (512 * transfer.count - 1), 0x4a, false⟩) : ∃ begun,
    Storing writeProtected disk devices.memory transfer 0 disk begun ∧
      devices.floppyCommand
          (driveCommand 0xc5 transfer.cylinder transfer.head transfer.sector eot) =
        begun.setDrq (floppy144 writeProtected disk) := by
  obtain ⟨fdc', begun, media, advanced⟩ :=
    command_advanced 0xc5 (by decide) begins loaded empty last
  have writing : fdc'.begin 0xc5 (floppy144 writeProtected disk) =
      { fdc' with phase := .writing } := by
    rw [Controller.begin, if_neg (by decide), if_pos (by decide)]
  refine ⟨{ devices with fdc := { fdc' with phase := .writing } }, ?_, ?_⟩
  · exact
      { phase := rfl
        media := media
        content := by
          rw [recorded, Nat.mul_zero, replace_nothing]
          exact Agree.refl _ _
        advanced := advanced.elsewhere ..
        channel := channel ▸ channel_open begins 0x4a
        memory := rfl }
  · simp only [Devices.floppyCommand, begun, writing, media]

end Writes

end BootSector.SectorTransfers
