import BootSector.Bios
import BootSector.Extents

/-!
# The floppy controller

The controller of `iodev/floppy.cc` and channel 2 of `iodev/dma.cc`, as far as
reads and writes of drive 0 take them: the reset, the command, the sectors that
go through the DMA channel one by one, and the result. Where the source panics
the controller is taken to hang, which is also what it does without a diskette.
-/

namespace BootSector.FloppyController

open RealMode Extents

section Devices

/-- A diskette in the drive, with the bytes of its image file. -/
structure Media where
  tracks : Nat
  heads : Nat
  sectorsPerTrack : Nat
  writeProtected : Bool
  image : Nat → Byte

def Media.logicalSector (media : Media) (cylinder head sector : Byte) : Nat :=
  cylinder.toNat * media.heads * media.sectorsPerTrack + head.toNat * media.sectorsPerTrack +
    (sector.toNat - 1)

def Media.put (media : Media) (logicalSector : Nat) (buffer : Nat → Byte) : Media :=
  { media with image := replace media.image (512 * logicalSector) 512 buffer }

/-- `BX_FLOPPY_1_44`. -/
def floppy144 (writeProtected : Bool) (image : Nat → Byte) : Media :=
  ⟨80, 2, 18, writeProtected, image⟩

/-- `pending_command` and the result, if there is one. -/
inductive Phase where
  | reset | idle | reading | writing | result (bytes : List Byte) | hung
  deriving DecidableEq

structure Controller where
  dor : Byte
  multiTrack : Bool
  cylinder : Byte
  head : Byte
  sector : Byte
  eot : Byte
  status0 : Byte
  status1 : Byte
  status2 : Byte
  buffer : Nat → Byte
  bufferIndex : Nat
  terminalCount : Bool
  media : Option Media
  phase : Phase

/-- Channel 2 of the DMA controller, with its current address and count. -/
structure Channel where
  page : Byte
  address : Word
  count : Word
  mode : Byte
  masked : Bool

structure Devices where
  fdc : Controller
  channel : Channel
  memory : Memory

/-- The nine bytes of a read or write, without the last two, which are not
looked at. -/
structure Command where
  code : Byte
  select : Byte
  cylinder : Byte
  head : Byte
  sector : Byte
  size : Byte
  eot : Byte

end Devices

namespace Controller

variable (fdc : Controller)

def enterIdlePhase : Controller := { fdc with phase := .idle, bufferIndex := 0 }

def enterResultPhase : Controller :=
  { fdc with
    phase := .result
      [fdc.status0, fdc.status1, fdc.status2, fdc.cylinder, fdc.head, fdc.sector, 2] }

def hang : Controller := { fdc with phase := .hung }

/-- `main_status_reg`. A controller that hangs would still take a byte. -/
def status : Byte :=
  match fdc.phase with
  | .reset => 0x00
  | .idle => 0x80
  | .reading | .writing => 0x10
  | .result _ => 0xd0
  | .hung => 0x90

def abnormal (status1 status2 : Byte) : Controller :=
  { fdc with
    status0 := 0x40 ||| fdc.head <<< 2 ||| fdc.dor &&& 3
    status1
    status2 }.enterResultPhase

def normal : Controller :=
  { fdc with
    status0 := fdc.head <<< 2 ||| fdc.dor &&& 3
    status1 := 0
    status2 := 0 }.enterResultPhase

/-- `floppy_xfer` with `FROM_FLOPPY`, one sector. -/
def fromFloppy (media : Media) (logicalSector : Nat) : Controller :=
  { fdc with buffer := fun index => media.image (512 * logicalSector + index) }

/-- `floppy_xfer` with `TO_FLOPPY`. -/
def toFloppy (media : Media) (logicalSector : Nat) : Controller :=
  { fdc with media := some (media.put logicalSector fdc.buffer) }

def incrementSector (media : Media) : Controller :=
  let sector := fdc.sector + 1
  if fdc.eot < sector ∨ media.sectorsPerTrack < sector.toNat then
    let moved : Controller :=
      if fdc.multiTrack then
        let head := fdc.head + 1
        if 1 < head then { fdc with sector := 1, head := 0, cylinder := fdc.cylinder + 1 }
        else { fdc with sector := 1, head }
      else { fdc with sector := 1, cylinder := fdc.cylinder + 1 }
    if media.tracks ≤ moved.cylinder.toNat then
      { moved with cylinder := BitVec.ofNat 8 media.tracks }
    else moved
  else { fdc with sector }

/-- The last part of `floppy_command` for reads and writes: the first sector is
read, or is waited for. -/
def begin (code : Byte) (media : Media) : Controller :=
  if code &&& 0x4f = 0x46 then
    { fdc with phase := .reading }.fromFloppy media
      (media.logicalSector fdc.cylinder fdc.head fdc.sector)
  else if code &&& 0x7f = 0x45 then { fdc with phase := .writing }
  else fdc.hang

/-- `floppy_command` for `read normal data` and `write normal data`. No command
may be pending. -/
def floppyCommand (command : Command) : Controller :=
  if fdc.phase ≠ .idle then fdc.hang else
  if !fdc.dor.getLsbD 3 then fdc.hang else
  let drive := command.select &&& 3
  let fdc := { fdc with multiTrack := command.code.getLsbD 7, dor := fdc.dor &&& 0xfc ||| drive }
  let head := command.head &&& 1
  if !fdc.dor.getLsbD (drive.toNat + 4) then fdc.hang
  else if drive ≠ 0 then fdc.hang
  else if head ≠ command.select >>> 2 &&& 1 then fdc.abnormal 0x04 0x00
  else match fdc.media with
    | none => fdc.hang
    | some media =>
        if command.size ≠ 2 then fdc.hang
        else if media.tracks ≤ command.cylinder.toNat then fdc.hang
        else
          let fdc := { fdc with cylinder := command.cylinder, head, sector := command.sector }
          if media.sectorsPerTrack < command.sector.toNat then fdc.abnormal 0x04 0x00
          else
            let eot :=
              if command.eot = 0 then BitVec.ofNat 8 media.sectorsPerTrack else command.eot
            { fdc with eot }.begin command.code media

/-- `recalibrate` of drive 0, to the end of its interrupt handler. -/
def recalibrate (drive : Byte) : Controller :=
  if fdc.phase ≠ .idle then fdc.hang
  else
    { fdc with
      dor := fdc.dor &&& 0xfc ||| drive
      cylinder := 0
      status0 := 0x20 ||| drive }.enterIdlePhase

/-- `reset` by software, once its timer has run. -/
def reset : Controller :=
  { fdc with
    cylinder := 0, head := 0, sector := 0, eot := 0
    status0 := 0xc0, status1 := 0, status2 := 0 }.enterIdlePhase

/-- A write to the digital output register, and whether the controller
interrupts: it does once it has come out of a reset. -/
def outDor (value : Byte) : Controller × Bool :=
  match fdc.dor.getLsbD 2, value.getLsbD 2 with
  | true, false => ({ fdc with dor := value, phase := .reset }, false)
  | false, true =>
      if fdc.phase = .reset then ({ fdc with dor := value }.reset, true)
      else ({ fdc with dor := value }, false)
  | _, _ => ({ fdc with dor := value }, false)

/-- The controller's side of a DMA transfer that took `length` bytes out of its
buffer, with the terminal count or not. -/
def dmaWrite (media : Media) (length : Nat) (terminalCount : Bool) : Controller :=
  let fdc := { fdc with bufferIndex := fdc.bufferIndex + length, terminalCount }
  let full := 512 ≤ fdc.bufferIndex
  let fdc := if full then { fdc.incrementSector media with bufferIndex := 0 } else fdc
  if terminalCount then fdc.normal
  else if full then
    fdc.fromFloppy media (media.logicalSector fdc.cylinder fdc.head fdc.sector)
  else fdc

/-- The controller's side of a DMA transfer that brings it bytes, and how many
it says it took. -/
def dmaRead (media : Media) (bytes : Nat → Byte) (maxlen : Nat) (terminal : Bool) :
    Controller × Nat :=
  let length := min (512 - fdc.bufferIndex) maxlen
  let fdc :=
    { fdc with
      buffer := replace fdc.buffer fdc.bufferIndex length bytes
      bufferIndex := fdc.bufferIndex + length
      terminalCount := terminal && length == maxlen }
  if 512 ≤ fdc.bufferIndex ∨ fdc.terminalCount then
    if media.writeProtected then (fdc.abnormal 0x27 0x31, 1)
    else
      let fdc := fdc.toFloppy media (media.logicalSector fdc.cylinder fdc.head fdc.sector)
      ({ fdc.incrementSector media with bufferIndex := 0 }, length)
  else (fdc, length)

end Controller

namespace Channel

variable (channel : Channel)

def place : Nat := 65536 * channel.page.toNat + channel.address.toNat

def left : Nat := (channel.count + 1).toNat

def advance (length : Nat) : Channel :=
  let count := channel.count - BitVec.ofNat 16 length
  { channel with
    address := channel.address + BitVec.ofNat 16 length
    count
    masked := count == 0xffff }

end Channel

namespace Devices

variable (devices : Devices)

/-- Not the window of the video adapter, nor the ROMs. -/
def Ram (address : Nat) : Prop := address < 0xa0000 ∨ 0x100000 ≤ address

instance (address : Nat) : Decidable (Ram address) := inferInstanceAs (Decidable (_ ∨ _))

/-- `DEV_MEM_WRITE_PHYSICAL_DMA`. -/
def writeDma (memory : Memory) (place length : Nat) (buffer : Nat → Byte) : Memory := fun address =>
  if Ram address then replace memory place length buffer address else memory address

/-- `raise_HLDA`: one transfer, of at most a sector, in the direction that the
channel is set up for. -/
def raiseHlda (media : Media) : Devices :=
  let place := devices.channel.place
  let maxlen := min devices.channel.left 512
  let terminal := decide (devices.channel.left ≤ 512)
  if devices.channel.mode = 0x46 then
    let length := min (512 - devices.fdc.bufferIndex) maxlen
    { fdc := devices.fdc.dmaWrite media length (terminal && length == maxlen)
      channel := devices.channel.advance length
      memory := writeDma devices.memory place length
        fun index => devices.fdc.buffer (devices.fdc.bufferIndex + index) }
  else if devices.channel.mode = 0x4a then
    let (fdc, length) := devices.fdc.dmaRead media (fun index => devices.memory (place + index))
      maxlen terminal
    { devices with fdc, channel := devices.channel.advance length }
  else devices

/-- `set_DRQ`: the request waits while the channel is masked. -/
def setDrq (media : Media) : Devices :=
  if devices.channel.masked then devices else devices.raiseHlda media

/-- A write asks for its first sector at once. -/
def floppyCommand (command : Command) : Devices :=
  let devices := { devices with fdc := devices.fdc.floppyCommand command }
  match devices.fdc.phase, devices.fdc.media with
  | .writing, some media => devices.setDrq media
  | _, _ => devices

/-- The controller's timer, once for each sector. -/
def timer : Devices :=
  match devices.fdc.phase, devices.fdc.media with
  | .reading, some media => devices.setDrq media
  | .writing, some media =>
      if devices.fdc.terminalCount then { devices with fdc := devices.fdc.normal }
      else devices.setDrq media
  | _, _ => devices

end Devices

variable {devices : Devices} {media : Media} {disk : Nat → Byte}

section Rest

/-- The controller between two calls: it waits for a command. -/
structure AtRest (fdc : Controller) : Prop where
  idle : fdc.phase = .idle
  outOfReset : fdc.dor.getLsbD 2 = true
  bufferIndex : fdc.bufferIndex = 0

variable {fdc : Controller}

theorem increment_dor (fdc : Controller) (media : Media) :
    (fdc.incrementSector media).dor = fdc.dor := by
  simp only [Controller.incrementSector, apply_ite Controller.dor, ite_self]

theorem dma_write_dor (fdc : Controller) (media : Media) (length : Nat) (terminalCount : Bool) :
    (fdc.dmaWrite media length terminalCount).dor = fdc.dor := by
  simp only [Controller.dmaWrite, Controller.normal, Controller.enterResultPhase,
    Controller.fromFloppy, apply_ite Controller.dor, increment_dor, ite_self]

theorem dma_read_dor (fdc : Controller) (media : Media) (bytes : Nat → Byte) (maxlen : Nat)
    (terminal : Bool) : (fdc.dmaRead media bytes maxlen terminal).1.dor = fdc.dor := by
  simp only [Controller.dmaRead, Controller.abnormal, Controller.enterResultPhase,
    Controller.toFloppy, apply_ite Prod.fst, apply_ite Controller.dor, increment_dor, ite_self]

theorem set_drq_dor (devices : Devices) (media : Media) :
    (devices.setDrq media).fdc.dor = devices.fdc.dor := by
  unfold Devices.setDrq Devices.raiseHlda
  split_ifs
  · rfl
  · exact dma_write_dor ..
  · exact dma_read_dor ..
  · rfl

theorem timer_dor (devices : Devices) : devices.timer.fdc.dor = devices.fdc.dor := by
  unfold Devices.timer
  split
  · exact set_drq_dor ..
  · split_ifs
    · rfl
    · exact set_drq_dor ..
  · rfl

theorem timers_dor (sectors : Nat) (devices : Devices) :
    (Devices.timer^[sectors] devices).fdc.dor = devices.fdc.dor := by
  induction sectors with
  | zero => rfl
  | succ sectors ih => rw [Function.iterate_succ_apply', timer_dor, ih]

theorem begin_dor (fdc : Controller) (code : Byte) (media : Media) :
    (fdc.begin code media).dor = fdc.dor := by
  simp only [Controller.begin, apply_ite Controller.dor, Controller.fromFloppy,
    Controller.hang, ite_self]

/-- A command selects the drive and leaves the rest of the register alone. -/
theorem command_reset_bit (fdc : Controller) (command : Command) :
    (fdc.floppyCommand command).dor.getLsbD 2 = fdc.dor.getLsbD 2 := by
  have kept : (fdc.dor &&& 0xfc ||| command.select &&& 3).getLsbD 2 = fdc.dor.getLsbD 2 := by simp
  cases inside : fdc.media with
  | none =>
      simp only [Controller.floppyCommand, inside, apply_ite Controller.dor,
        apply_ite (fun dor : Byte => dor.getLsbD 2), Controller.hang, Controller.abnormal,
        Controller.enterResultPhase, kept, ite_self]
  | some media =>
      simp only [Controller.floppyCommand, inside, apply_ite Controller.dor,
        apply_ite (fun dor : Byte => dor.getLsbD 2), Controller.hang, Controller.abnormal,
        Controller.enterResultPhase, begin_dor, kept, ite_self]

theorem command_out_of_reset (command : Command) (normal : devices.fdc.dor.getLsbD 2 = true) :
    (devices.floppyCommand command).fdc.dor.getLsbD 2 = true := by
  have selected := (command_reset_bit devices.fdc command).trans normal
  unfold Devices.floppyCommand
  dsimp only
  split
  · rwa [set_drq_dor]
  · exact selected

variable {value : Byte}

theorem out_dor_normal (normal : fdc.dor.getLsbD 2 = true) (high : value.getLsbD 2 = true) :
    fdc.outDor value = ({ fdc with dor := value }, false) := by
  simp only [Controller.outDor, normal, high]

theorem out_dor_holds (normal : fdc.dor.getLsbD 2 = true) (low : value.getLsbD 2 = false) :
    fdc.outDor value = ({ fdc with dor := value, phase := .reset }, false) := by
  simp only [Controller.outDor, normal, low]

theorem out_dor_resets (held : fdc.dor.getLsbD 2 = false) (pending : fdc.phase = .reset)
    (high : value.getLsbD 2 = true) :
    fdc.outDor value = ({ fdc with dor := value }.reset, true) := by
  simp only [Controller.outDor, held, high, pending, if_true]

end Rest

section Frame

/-- What is left to transfer lies between two addresses, and nothing outside
them has been written. -/
structure Confined (first last : Nat) (memory : Memory) (devices : Devices) : Prop where
  window : devices.channel.masked = true ∨
    (first ≤ devices.channel.place ∧
      devices.channel.place + devices.channel.count.toNat < last ∧
      devices.channel.address.toNat + devices.channel.count.toNat < 65536)
  outside : ∀ address, ¬(first ≤ address ∧ address < last) →
    devices.memory address = memory address

variable {first last : Nat} {memory : Memory}

theorem write_dma_outside {memory : Memory} {place length address : Nat} {buffer : Nat → Byte}
    (out : ¬(place ≤ address ∧ address < place + length)) :
    Devices.writeDma memory place length buffer address = memory address := by
  rw [Devices.writeDma, replace_outside out, ite_self]

theorem left_le (channel : Channel) : channel.left ≤ channel.count.toNat + 1 := by
  simp only [Channel.left]
  bv_omega

theorem advance_window {channel : Channel} {length : Nat}
    (short : length ≤ channel.count.toNat + 1) (lower : first ≤ channel.place)
    (upper : channel.place + channel.count.toNat < last)
    (fits : channel.address.toNat + channel.count.toNat < 65536) :
    (channel.advance length).masked = true ∨
      (first ≤ (channel.advance length).place ∧
        (channel.advance length).place + (channel.advance length).count.toNat < last ∧
        (channel.advance length).address.toNat + (channel.advance length).count.toNat < 65536) := by
  have bound := channel.count.isLt
  simp only [Channel.advance, Channel.place, beq_iff_eq] at lower upper ⊢
  by_cases done : channel.count - BitVec.ofNat 16 length = 0xffff
  · exact .inl done
  · refine .inr ?_
    have count : (channel.count - BitVec.ofNat 16 length).toNat =
        channel.count.toNat - length ∧ length ≤ channel.count.toNat := by bv_omega
    have address : (channel.address + BitVec.ofNat 16 length).toNat =
        channel.address.toNat + length := by bv_omega
    omega

theorem dma_read_length (fdc : Controller) (media : Media) (bytes : Nat → Byte) (maxlen : Nat)
    (terminal : Bool) : (fdc.dmaRead media bytes maxlen terminal).2 ≤ max maxlen 1 := by
  simp only [Controller.dmaRead]
  split_ifs
  · exact le_max_right ..
  · exact (min_le_right ..).trans (le_max_left ..)
  · exact (min_le_right ..).trans (le_max_left ..)

theorem raise_hlda_confined (confined : Confined first last memory devices)
    (unmasked : devices.channel.masked = false) :
    Confined first last memory (devices.raiseHlda media) := by
  obtain ⟨lower, upper, fits⟩ : _ ∧ _ ∧ _ :=
    confined.window.resolve_left (by rw [unmasked]; decide)
  have left := left_le devices.channel
  unfold Devices.raiseHlda
  split_ifs
  · refine ⟨advance_window (by omega) lower upper fits, fun address out => ?_⟩
    dsimp only
    refine (write_dma_outside ?_).trans (confined.outside address out)
    omega
  · have short := dma_read_length devices.fdc media
      (fun index => devices.memory (devices.channel.place + index))
      (min devices.channel.left 512) (decide (devices.channel.left ≤ 512))
    exact ⟨advance_window (by omega) lower upper fits, confined.outside⟩
  · exact confined

theorem set_drq_confined (confined : Confined first last memory devices) :
    Confined first last memory (devices.setDrq media) := by
  unfold Devices.setDrq
  split_ifs with masked
  · exact confined
  · exact raise_hlda_confined confined (by simpa using masked)

theorem timer_confined (confined : Confined first last memory devices) :
    Confined first last memory devices.timer := by
  unfold Devices.timer
  split
  · exact set_drq_confined confined
  · split_ifs
    · exact ⟨confined.window, confined.outside⟩
    · exact set_drq_confined confined
  · exact confined

theorem timers_confined (confined : Confined first last memory devices) (sectors : Nat) :
    Confined first last memory (Devices.timer^[sectors] devices) := by
  induction sectors with
  | zero => exact confined
  | succ sectors ih =>
      rw [Function.iterate_succ_apply']
      exact timer_confined ih

theorem command_confined (confined : Confined first last memory devices) (command : Command) :
    Confined first last memory (devices.floppyCommand command) := by
  have sent : Confined first last memory
      { devices with fdc := devices.fdc.floppyCommand command } :=
    ⟨confined.window, confined.outside⟩
  dsimp only [Devices.floppyCommand]
  split
  · exact set_drq_confined sent
  · exact sent

end Frame

section Sectors

structure Transfer where
  cylinder : Byte
  head : Byte
  sector : Byte
  count : Nat
  page : Byte
  address : Word

namespace Transfer

variable (transfer : Transfer)

def lba : Nat :=
  (transfer.cylinder.toNat * 2 + transfer.head.toNat) * 18 + transfer.sector.toNat - 1

def place : Nat := 65536 * transfer.page.toNat + transfer.address.toNat

structure Begins : Prop where
  head : transfer.head.toNat < 2
  cylinder : transfer.cylinder.toNat < 80
  sector : 1 ≤ transfer.sector.toNat
  track : transfer.sector.toNat ≤ 18
  positive : 1 ≤ transfer.count
  count : transfer.count ≤ 72
  page : transfer.address.toNat + 512 * transfer.count ≤ 65536

end Transfer

def Controller.lba (fdc : Controller) : Nat :=
  (fdc.cylinder.toNat * 2 + fdc.head.toNat) * 18 + fdc.sector.toNat - 1

variable {transfer : Transfer} {done lba : Nat} {fdc : Controller} {writeProtected : Bool}

structure At (lba : Nat) (fdc : Controller) : Prop where
  head : fdc.head.toNat < 2
  sector : 1 ≤ fdc.sector.toNat
  track : fdc.sector.toNat ≤ 18
  cylinder : fdc.cylinder.toNat ≤ 80
  lba : min fdc.lba 2880 = min lba 2880

theorem At.logical_sector (place : At lba fdc) :
    (floppy144 writeProtected disk).logicalSector fdc.cylinder fdc.head fdc.sector = fdc.lba := by
  have sector := place.sector
  simp only [Media.logicalSector, floppy144, Controller.lba]
  omega

theorem increment_moves (fdc : Controller) (media : Media) : ∃ cylinder head sector,
    fdc.incrementSector media = { fdc with cylinder, head, sector } ∧
      ∀ buffer bufferIndex terminalCount inside,
        { fdc with buffer, bufferIndex, terminalCount, media := inside }.incrementSector media =
          { fdc with
            cylinder, head, sector, buffer, bufferIndex, terminalCount, media := inside } := by
  have elsewhere : ∀ buffer bufferIndex terminalCount inside,
      { fdc with buffer, bufferIndex, terminalCount, media := inside }.incrementSector media =
        { fdc with
          cylinder := (fdc.incrementSector media).cylinder
          head := (fdc.incrementSector media).head
          sector := (fdc.incrementSector media).sector
          buffer, bufferIndex, terminalCount, media := inside } := by
    intro buffer bufferIndex terminalCount inside
    simp only [Controller.incrementSector]
    split_ifs <;> rfl
  exact ⟨_, _, _, elsewhere fdc.buffer fdc.bufferIndex fdc.terminalCount fdc.media, elsewhere⟩

theorem increment_head (media : Media) (small : fdc.head.toNat < 2) :
    (fdc.incrementSector media).head.toNat < 2 := by
  have next : (if (1 : Byte) < fdc.head + 1 then (0 : Byte) else fdc.head + 1).toNat < 2 := by
    split_ifs with beyond
    · decide
    · rw [BitVec.lt_def] at beyond
      exact Nat.lt_succ_of_le (Nat.le_of_not_lt beyond)
  simp only [Controller.incrementSector]
  split_ifs at next ⊢ <;> first | exact small | exact next

theorem increment_at (place : At lba fdc) (multiTrack : fdc.multiTrack = true)
    (goes : lba < 2880 → fdc.sector.toNat < fdc.eot.toNat ∨ 18 ≤ fdc.eot.toNat) :
    At (lba + 1) (fdc.incrementSector (floppy144 writeProtected disk)) := by
  obtain ⟨head, sector, track, cylinder, same⟩ := place
  simp only [Controller.lba] at same
  have bound := fdc.eot.isLt
  have next : (fdc.sector + 1).toNat = fdc.sector.toNat + 1 := by bv_omega
  have side : (fdc.head + 1).toNat = fdc.head.toNat + 1 := by bv_omega
  have inner : (fdc.cylinder + 1).toNat = fdc.cylinder.toNat + 1 := by bv_omega
  have one : (1 : Byte).toNat = 1 := rfl
  have zero : (0 : Byte).toNat = 0 := rfl
  have beyond : (BitVec.ofNat 8 80).toNat = 80 := rfl
  simp only [Controller.incrementSector, floppy144, multiTrack, if_true, BitVec.lt_def, next,
    side, one]
  split_ifs with ends turns clamps clamps <;>
    constructor <;> simp only [Controller.lba, next, side, inner, one, zero, beyond] at * <;> omega

/-- How far a transfer has come: the last sector is on this track, or the track
goes to its end. -/
structure Advanced (transfer : Transfer) (done : Nat) (fdc : Controller) : Prop where
  multiTrack : fdc.multiTrack = true
  position : At (transfer.lba + done) fdc
  eot : transfer.lba + done < 2880 →
    fdc.sector.toNat + (transfer.count - done) ≤ fdc.eot.toNat + 1 ∨ 18 ≤ fdc.eot.toNat
  bufferIndex : fdc.bufferIndex = 0

theorem Advanced.elsewhere (advanced : Advanced transfer done fdc) (buffer : Nat → Byte)
    (terminalCount : Bool) (media : Option Media) (phase : Phase) :
    Advanced transfer done { fdc with buffer, terminalCount, media, phase } :=
  ⟨advanced.multiTrack,
    ⟨advanced.position.head, advanced.position.sector, advanced.position.track,
      advanced.position.cylinder, advanced.position.lba⟩,
    advanced.eot, advanced.bufferIndex⟩

theorem advanced_next (writeProtected : Bool) (disk : Nat → Byte)
    (advanced : Advanced transfer done fdc) (more : done + 1 < transfer.count) :
    Advanced transfer (done + 1)
      { fdc.incrementSector (floppy144 writeProtected disk) with bufferIndex := 0 } := by
  obtain ⟨multiTrack, position, eot, -⟩ := advanced
  have next : At (transfer.lba + done + 1) (fdc.incrementSector (floppy144 writeProtected disk)) :=
    increment_at position multiTrack fun inside => by
      have last := eot inside
      omega
  have before := position.lba
  have after := next.lba
  have bounds := And.intro (And.intro position.sector position.track)
    (And.intro position.head next.head)
  obtain ⟨cylinder, head, sector, moved, -⟩ :=
    increment_moves fdc (floppy144 writeProtected disk)
  rw [moved] at next after bounds ⊢
  have there : At (transfer.lba + (done + 1))
      { fdc with cylinder, head, sector, bufferIndex := 0 } :=
    ⟨next.head, next.sector, next.track, next.cylinder, next.lba⟩
  refine ⟨multiTrack, there, fun inside => ?_, rfl⟩
  have last := eot (by omega)
  have sectors := And.intro next.sector next.track
  simp only [Controller.lba] at before after bounds sectors ⊢
  omega

structure Open (mode : Byte) (transfer : Transfer) (done : Nat) (channel : Channel) : Prop where
  page : channel.page = transfer.page
  address : channel.address.toNat = transfer.address.toNat + 512 * done
  count : channel.count.toNat + 1 = 512 * (transfer.count - done)
  mode : channel.mode = mode
  masked : channel.masked = false

variable {mode : Byte} {channel : Channel}

theorem advance_goes (channel : Channel) (length : Nat) :
    (channel.advance length).page = channel.page ∧
      (channel.advance length).mode = channel.mode :=
  ⟨rfl, rfl⟩

theorem open_next (unfinished : Open mode transfer done channel) (begins : transfer.Begins)
    (more : done + 1 < transfer.count) : Open mode transfer (done + 1) (channel.advance 512) := by
  obtain ⟨page, address, count, mode, -⟩ := unfinished
  have most := begins.count
  have fits := begins.page
  have goes := advance_goes channel 512
  constructor
  · exact goes.1.trans page
  · simp only [Channel.advance]
    bv_omega
  · simp only [Channel.advance]
    bv_omega
  · exact goes.2.trans mode
  · simp only [Channel.advance, beq_eq_false_iff_ne]
    bv_omega

theorem open_place (unfinished : Open mode transfer done channel) :
    channel.place = transfer.place + 512 * done := by
  rw [Channel.place, Transfer.place, unfinished.page, unfinished.address]
  omega

theorem open_left (unfinished : Open mode transfer done channel) (begins : transfer.Begins)
    (more : done < transfer.count) : channel.left = 512 * (transfer.count - done) := by
  have count := unfinished.count
  have most := begins.count
  simp only [Channel.left]
  bv_omega

/-- The terminal count comes with the last sector. -/
theorem open_terminal (unfinished : Open mode transfer done channel) (begins : transfer.Begins)
    (more : done < transfer.count) : min channel.left 512 = 512 ∧
      decide (channel.left ≤ 512) = (done + 1 == transfer.count) := by
  rw [open_left unfinished begins more]
  refine ⟨by omega, ?_⟩
  rw [Bool.eq_iff_iff]
  simp
  omega

def Succeeded (fdc : Controller) : Prop :=
  ∃ status0 rest, fdc.phase = .result (status0 :: rest) ∧ status0 &&& 0xc0 = 0

def Erred (status1 : Byte) (fdc : Controller) : Prop :=
  ∃ status0 rest, fdc.phase = .result (status0 :: status1 :: rest) ∧ status0 &&& 0xc0 ≠ 0

theorem no_error {head dor : Byte} (small : head.toNat < 2) :
    (head <<< 2 ||| dor &&& 3) &&& 0xc0 = 0 := by
  have two : head.toNat = 0 ∨ head.toNat = 1 := by omega
  rcases two with zero | one
  · obtain rfl : head = 0 := BitVec.eq_of_toNat_eq zero
    revert dor
    decide
  · obtain rfl : head = 1 := BitVec.eq_of_toNat_eq one
    revert dor
    decide

theorem normal_succeeded (small : fdc.head.toNat < 2) : Succeeded fdc.normal :=
  ⟨_, _, rfl, no_error small⟩

theorem abnormal_erred (fdc : Controller) (status1 status2 : Byte) :
    Erred status1 (fdc.abnormal status1 status2) := by
  refine ⟨_, _, rfl, fun clear => ?_⟩
  have bit : ((0x40 ||| fdc.head <<< 2 ||| fdc.dor &&& 3) &&& 0xc0).getLsbD 6 = true := by simp
  rw [clear] at bit
  exact absurd bit (by decide)

theorem Succeeded.waits (succeeded : Succeeded fdc) :
    fdc.phase ≠ .reading ∧ fdc.phase ≠ .writing := by
  obtain ⟨status0, rest, phase, -⟩ := succeeded
  rw [phase]
  exact ⟨Phase.noConfusion, Phase.noConfusion⟩

theorem Erred.waits {status1 : Byte} (erred : Erred status1 fdc) :
    fdc.phase ≠ .reading ∧ fdc.phase ≠ .writing := by
  obtain ⟨status0, rest, phase, -⟩ := erred
  rw [phase]
  exact ⟨Phase.noConfusion, Phase.noConfusion⟩

/-- A controller that is not transferring waits. -/
theorem timers_fixed (reads : devices.fdc.phase ≠ .reading) (writes : devices.fdc.phase ≠ .writing)
    (sectors : Nat) : Devices.timer^[sectors] devices = devices := by
  refine Function.iterate_fixed ?_ sectors
  unfold Devices.timer
  split
  next reading _ => exact absurd reading reads
  next writing _ => exact absurd writing writes
  next => rfl

end Sectors

section Commands

variable {fdc : Controller} {code cylinder head sector eot : Byte} {transfer : Transfer}
  {writeProtected : Bool}

/-- The motor of drive 0 is on, the diskette is in, and no command is pending. -/
structure Loaded (writeProtected : Bool) (disk : Nat → Byte) (fdc : Controller) : Prop where
  idle : fdc.phase = .idle
  enabled : fdc.dor.getLsbD 3 = true
  motor : fdc.dor.getLsbD 4 = true
  media : fdc.media = some (floppy144 writeProtected disk)

def driveCommand (code cylinder head sector eot : Byte) : Command :=
  ⟨code, head <<< 2 ||| 0, cylinder, head, sector, 2, eot⟩

theorem head_select (small : head.toNat < 2) : (head <<< 2 ||| 0) &&& 3 = 0 ∧
    head &&& 1 = head ∧ (head <<< 2 ||| 0) >>> 2 &&& 1 = head := by
  have two : head.toNat = 0 ∨ head.toNat = 1 := by omega
  rcases two with zero | one
  · obtain rfl : head = 0 := BitVec.eq_of_toNat_eq zero
    decide
  · obtain rfl : head = 1 := BitVec.eq_of_toNat_eq one
    decide

/-- What becomes of the command, by its cylinder and sector. -/
theorem drive_command (code cylinder sector eot : Byte) (loaded : Loaded writeProtected disk fdc)
    (small : head.toNat < 2) :
    ∃ dor, let fdc' := { fdc with multiTrack := code.getLsbD 7, dor }
      fdc.floppyCommand (driveCommand code cylinder head sector eot) =
        if 80 ≤ cylinder.toNat then fdc'.hang
        else if 18 < sector.toNat then { fdc' with cylinder, head, sector }.abnormal 0x04 0x00
        else { fdc' with cylinder, head, sector, eot := if eot = 0 then 18 else eot }.begin code
          (floppy144 writeProtected disk) := by
  obtain ⟨drive, side, same⟩ := head_select small
  have motor : (fdc.dor &&& 0xfc ||| 0).getLsbD ((0 : Byte).toNat + 4) = true := by
    simp [loaded.motor]
  refine ⟨fdc.dor &&& 0xfc ||| 0, ?_⟩
  simp only [Controller.floppyCommand, driveCommand, drive, side, same, motor, loaded.idle,
    loaded.enabled, loaded.media, Bool.not_true, Bool.false_eq_true, if_false, ne_eq,
    not_true_eq_false]
  rfl

theorem begin_media (fdc : Controller) (code : Byte) (media : Media) :
    (fdc.begin code media).media = fdc.media := by
  simp only [Controller.begin, apply_ite Controller.media, Controller.fromFloppy,
    Controller.hang, ite_self]

theorem command_media (fdc : Controller) (command : Command) :
    (fdc.floppyCommand command).media = fdc.media := by
  cases inside : fdc.media with
  | none =>
      simp only [Controller.floppyCommand, inside, apply_ite Controller.media, Controller.hang,
        Controller.abnormal, Controller.enterResultPhase, ite_self]
  | some media =>
      simp only [Controller.floppyCommand, inside, apply_ite Controller.media, Controller.hang,
        Controller.abnormal, Controller.enterResultPhase, begin_media, ite_self]

/-- Beyond the last cylinder the controller hangs. -/
theorem command_hangs (code sector eot : Byte) (loaded : Loaded writeProtected disk fdc)
    (small : head.toNat < 2) (beyond : 80 ≤ cylinder.toNat) :
    (fdc.floppyCommand (driveCommand code cylinder head sector eot)).phase = .hung := by
  obtain ⟨dor, same⟩ := drive_command code cylinder sector eot loaded small
  rw [same, if_pos beyond]
  rfl

theorem command_fails (code eot : Byte) (loaded : Loaded writeProtected disk fdc)
    (small : head.toNat < 2) (near : cylinder.toNat < 80) (beyond : 18 < sector.toNat) :
    Erred 0x04 (fdc.floppyCommand (driveCommand code cylinder head sector eot)) := by
  obtain ⟨dor, same⟩ := drive_command code cylinder sector eot loaded small
  rw [same, if_neg (Nat.not_le_of_lt near), if_pos beyond]
  exact abnormal_erred _ _ _

theorem command_advanced (code : Byte) (multi : code.getLsbD 7 = true) (begins : transfer.Begins)
    (loaded : Loaded writeProtected disk fdc) (empty : fdc.bufferIndex = 0)
    (last : eot.toNat = transfer.sector.toNat + transfer.count - 1) : ∃ fdc',
    fdc.floppyCommand
        (driveCommand code transfer.cylinder transfer.head transfer.sector eot) =
      fdc'.begin code (floppy144 writeProtected disk) ∧
    fdc'.media = some (floppy144 writeProtected disk) ∧ Advanced transfer 0 fdc' := by
  have first := begins.sector
  have positive := begins.positive
  have near := begins.cylinder
  have set : eot ≠ 0 := by
    rintro rfl
    have zero : (0 : Byte).toNat = 0 := rfl
    omega
  obtain ⟨dor, begun⟩ :=
    drive_command code transfer.cylinder transfer.sector eot loaded begins.head
  rw [begun, if_neg (Nat.not_le_of_lt near), if_neg (Nat.not_lt_of_le begins.track), if_neg set]
  refine ⟨_, rfl, loaded.media, multi, ⟨begins.head, first, begins.track, near.le, rfl⟩,
    fun _ => ?_, empty⟩
  simp only [last]
  omega

theorem channel_open (begins : transfer.Begins) (mode : Byte) : Open mode transfer 0
    ⟨transfer.page, transfer.address, BitVec.ofNat 16 (512 * transfer.count - 1), mode,
      false⟩ := by
  have positive := begins.positive
  have most := begins.count
  refine ⟨rfl, rfl, ?_, rfl, rfl⟩
  rw [BitVec.toNat_ofNat]
  omega

theorem command_waits {command : Command}
    (waits : (devices.fdc.floppyCommand command).phase ≠ .writing) :
    devices.floppyCommand command =
      { devices with fdc := devices.fdc.floppyCommand command } := by
  dsimp only [Devices.floppyCommand]
  split
  next writing _ => exact absurd writing waits
  next => rfl

end Commands

end BootSector.FloppyController
