import BootSector.SectorTransfers

/-!
# The diskette service

`int13_diskette_function` of `bios/rombios.c`: reset, status, read, write and
verify, driving the controller and its DMA channel. The data area of the BIOS
is memory at 400h; the handler's own stack is left out. Where the BIOS panics
or waits for what does not happen there is no result.
-/

namespace BootSector.Diskette

open RealMode Bios Extents FloppyController SectorTransfers

section DataArea

def readByteDS (offset : Nat) (devices : Devices) : Byte := devices.memory (0x400 + offset)

def writeByteDS (offset : Nat) (value : Byte) (devices : Devices) : Devices :=
  { devices with memory := Function.update devices.memory (0x400 + offset) value }

def setDisketteRetStatus (value : Byte) (devices : Devices) : Devices :=
  writeByteDS 0x41 value devices

def setDisketteCurrentCyl (drive cyl : Byte) (devices : Devices) : Devices :=
  writeByteDS (0x94 + drive.toNat) cyl devices

/-- `memcpyb` of the seven result bytes. -/
def recordStatus (status : List Byte) (devices : Devices) : Devices :=
  { devices with
    memory := fun address =>
      if 0x442 ≤ address ∧ address < 0x449 then status.getD (address - 0x442) 0
      else devices.memory address }

/-- `int0e_handler` on the controller's interrupt. -/
def interrupt (devices : Devices) : Devices :=
  writeByteDS 0x3e (readByteDS 0x3e devices ||| 0x80) devices

def acknowledge (devices : Devices) : Devices :=
  writeByteDS 0x3e (readByteDS 0x3e devices &&& 0x7f) devices

/-- `outb(PORT_FD_DOR, value)`. The handler of an interrupt after a reset also
senses it, which leaves the controller idle. -/
def outDor (value : Byte) (devices : Devices) : Devices :=
  let (fdc, interrupts) := devices.fdc.outDor value
  if interrupts then interrupt { devices with fdc } else { devices with fdc }

end DataArea

section Drives

/-- Register 10h of the CMOS has a drive in each half. -/
def driveType (cmos drive : Byte) : Byte := if drive = 0 then cmos >>> 4 else cmos &&& 0x0f

def floppyDriveExists (cmos drive : Byte) : Bool := driveType cmos drive != 0

def mediaStateOffset (drive : Byte) : Nat := if drive = 0 then 0x90 else 0x91

def floppyMediaKnown (drive : Byte) (devices : Devices) : Bool :=
  let recal := readByteDS 0x3e devices
  let val8 := if drive = 0 then recal else recal >>> 1
  if val8 &&& 1 = 0 then false
  else readByteDS (mediaStateOffset drive) devices >>> 4 &&& 1 != 0

def floppyOnCount : Byte := 37

/-- The loop on `PORT_FD_STATUS`. By itself the controller does not become ready
for a command. -/
def waitReady (devices : Devices) : Option Devices :=
  if devices.fdc.status &&& 0xc0 = 0x80 then some devices else none

def floppyResetController (devices : Devices) : Option Devices :=
  let val8 := devices.fdc.dor
  waitReady (outDor (val8 ||| 0x04) (outDor (val8 &&& 0xfb) devices))

def floppyPrepareController (drive : Byte) (devices : Devices) : Option Devices := do
  let devices := acknowledge devices
  let prevReset := devices.fdc.dor &&& 0x04
  let dor := (if drive = 0 then 0x10 else 0x20) ||| 0x0c ||| drive
  let devices ← waitReady (writeByteDS 0x40 floppyOnCount (outDor dor devices))
  if prevReset ≠ 0 then some devices
  else if readByteDS 0x3e devices &&& 0x80 = 0 then none
  else some (acknowledge devices)

/-- The interrupt comes if the controller takes the command. -/
def floppyDriveRecal (drive : Byte) (devices : Devices) : Option Devices := do
  let devices ← floppyPrepareController drive devices
  let fdc := devices.fdc.recalibrate drive
  if fdc.phase ≠ .idle then none
  else
    let devices := interrupt { devices with fdc }
    let val8 := readByteDS 0x3e devices &&& 0x7f
    let devices := writeByteDS 0x3e (if drive = 0 then val8 ||| 0x01 else val8 ||| 0x02) devices
    some (writeByteDS (if drive = 0 then 0x94 else 0x95) 0 devices)

/-- The media type is that of the drive. -/
def floppyMediaSense (cmos drive : Byte) (devices : Devices) : Option (Bool × Devices) := do
  let devices ← floppyDriveRecal drive devices
  let (configData, mediaState, retval) : Byte × Byte × Bool :=
    match (driveType cmos drive).toNat with
    | 1 | 2 => (0x00, 0x25, true)
    | 3 | 4 => (0x00, 0x17, true)
    | 5 => (0xcc, 0xd7, true)
    | 6 | 7 | 8 => (0x00, 0x27, true)
    | _ => (0x00, 0x00, false)
  some (retval,
    writeByteDS (mediaStateOffset drive) mediaState (writeByteDS 0x8b configData devices))

end Drives

section Service

structure Reply where
  ax : Word
  carry : Bool
  devices : Devices

def failed (status : Byte) (devices : Devices) : Reply :=
  ⟨wordOf status 0, true, setDisketteRetStatus status devices⟩

def resetDrive (cmos : Byte) (machine : Machine) (devices : Devices) : Reply :=
  let drive := lowByte machine.dx
  let refused (status : Byte) : Reply :=
    ⟨wordOf status (lowByte machine.ax), true, setDisketteRetStatus status devices⟩
  if 1 < drive then refused 1
  else if driveType cmos drive = 0 then refused 0x80
  else
    { ax := wordOf 0 (lowByte machine.ax)
      carry := false
      devices := setDisketteCurrentCyl drive 0 (setDisketteRetStatus 0 devices) }

def readStatus (machine : Machine) (devices : Devices) : Reply :=
  let val8 := readByteDS 0x41 devices
  ⟨wordOf val8 (lowByte machine.ax), val8 != 0, devices⟩

/-- The DMA page and address of `ES:BX`. -/
def dmaPlace (es bx : Word) : Byte × Word :=
  let base := es <<< 4
  let address := base + bx
  let page := lowByte (es >>> 12)
  (if address < base then page + 1 else page, address)

/-- The channel set up for the transfer: `num_sectors * 512` bytes at `ES:BX`,
from the disk (46h) or to it (4Ah). -/
def transferChannel (machine : Machine) : Channel :=
  let place := dmaPlace machine.es machine.bx
  ⟨place.1, place.2, BitVec.ofNat 16 (512 * (lowByte machine.ax).toNat - 1),
    if highByte machine.ax = 2 then 0x46 else 0x4a, false⟩

/-- How many sectors pass under the head before the motor count has gone from
37 timer ticks to zero: 2032 ms, at 11.1 ms a sector. -/
def patience : Nat := 182

def transferCommand (machine : Machine) : Command where
  code := if highByte machine.ax = 2 then 0xe6 else 0xc5
  select := highByte machine.dx <<< 2 ||| lowByte machine.dx
  cylinder := highByte machine.cx
  head := highByte machine.dx
  sector := lowByte machine.cx
  size := 2
  eot := lowByte machine.cx + lowByte machine.ax - 1

def transferred (machine : Machine) (devices : Devices) : Reply :=
  { ax := wordOf 0 (lowByte machine.ax)
    carry := false
    devices := setDisketteCurrentCyl (lowByte machine.dx) (highByte machine.cx) devices }

/-- Once the controller has interrupted, or the motor count is down. The BIOS
panics if a write fails on a diskette that is not write-protected. -/
def concludeTransfer (machine : Machine) (devices : Devices) : Option Reply :=
  match devices.fdc.phase with
  | .result status =>
      let devices := { devices with fdc := devices.fdc.enterIdlePhase }
      let devices := recordStatus status (acknowledge (interrupt devices))
      if status.getD 0 0 &&& 0xc0 = 0 then some (transferred machine devices)
      else if highByte machine.ax = 2 then some (failed 0x20 devices)
      else if status.getD 1 0 &&& 0x02 ≠ 0 then some ⟨0x0300, true, devices⟩
      else none
  | _ => (floppyResetController devices).map (failed 0x80)

def transferSectors (machine : Machine) (devices : Devices) : Option Reply :=
  concludeTransfer machine
    (Devices.timer^[patience] (devices.floppyCommand (transferCommand machine)))

def transferFunction (cmos : Byte) (machine : Machine) (devices : Devices) : Option Reply :=
  let numSectors := lowByte machine.ax
  let sector := lowByte machine.cx
  let head := highByte machine.dx
  let drive := lowByte machine.dx
  if 1 < drive ∨ 1 < head ∨ sector = 0 ∨ numSectors = 0 ∨ 72 < numSectors then
    some (failed 1 devices)
  else if !floppyDriveExists cmos drive then some (failed 0x80 devices)
  else do
    let (known, devices) ←
      (if floppyMediaKnown drive devices then some (true, devices)
      else floppyMediaSense cmos drive devices : Option (Bool × Devices))
    if !known then some (failed 0x0c devices)
    else if highByte machine.ax = 4 then some (transferred machine devices)
    else
      let channel := transferChannel machine
      if channel.address + channel.count < channel.address then some (failed 0x09 devices)
      else
        let devices ← floppyPrepareController drive { devices with channel }
        transferSectors machine devices

/-- Formatting and the queries about drives are not modelled. -/
def int13DisketteFunction (cmos : Byte) (machine : Machine) (devices : Devices) : Option Reply :=
  match (highByte machine.ax).toNat with
  | 0x00 => some (resetDrive cmos machine devices)
  | 0x01 => some (readStatus machine devices)
  | 0x02 | 0x03 | 0x04 => transferFunction cmos machine devices
  | _ => none

end Service

variable {devices : Devices} {machine : Machine} {disk : Nat → Byte} {cmos drive : Byte}

section Frame

/-- Memory is as before, but for the data area and a buffer. -/
def Keeping (start size : Nat) (memory memory' : Memory) : Prop :=
  ∀ address, address < 0x400 ∨ 0x500 ≤ address →
    ¬(start ≤ address ∧ address < start + size) → memory' address = memory address

variable {start size : Nat}

theorem Keeping.refl (start size : Nat) (memory : Memory) : Keeping start size memory memory :=
  fun _ _ _ => rfl

theorem Keeping.trans {memory memory' memory'' : Memory} (first : Keeping start size memory memory')
    (second : Keeping start size memory' memory'') : Keeping start size memory memory'' :=
  fun address other out => (second address other out).trans (first address other out)

theorem write_byte_keeping {offset : Nat} (low : offset < 0x100) (value : Byte)
    (devices : Devices) :
    Keeping start size devices.memory (writeByteDS offset value devices).memory :=
  fun _ other _ => Function.update_of_ne (by omega) ..

theorem record_status_keeping (status : List Byte) (devices : Devices) :
    Keeping start size devices.memory (recordStatus status devices).memory :=
  fun _ other _ => if_neg (by omega)

theorem acknowledge_keeping (devices : Devices) :
    Keeping start size devices.memory (acknowledge devices).memory :=
  write_byte_keeping (by decide) _ _

theorem interrupt_keeping (devices : Devices) :
    Keeping start size devices.memory (interrupt devices).memory :=
  write_byte_keeping (by decide) _ _

theorem dma_place (es bx : Word) :
    65536 * (dmaPlace es bx).1.toNat + (dmaPlace es bx).2.toNat = physical es bx := by
  have segment := es.isLt
  have offset := bx.isLt
  have base : (es <<< 4).toNat = 16 * es.toNat % 65536 := by
    rw [BitVec.toNat_shiftLeft, Nat.shiftLeft_eq, Nat.mul_comm]
  have page : (lowByte (es >>> 12)).toNat = es.toNat / 4096 := by
    rw [low_byte_to_nat, BitVec.toNat_ushiftRight, Nat.shiftRight_eq_div_pow]
    omega
  have next : (lowByte (es >>> 12) + 1).toNat = es.toNat / 4096 + 1 := by
    rw [BitVec.toNat_add, page]
    have one : (1 : Byte).toNat = 1 := rfl
    omega
  simp only [dmaPlace, BitVec.lt_def, BitVec.toNat_add, base, physical]
  split_ifs with carry
  · rw [next]
    omega
  · rw [page]
    omega

end Frame

section Rest

/-- The BIOS is done with the controller, which waits for a command, and the
diskette and memory are as they were. -/
structure Rested (before after : Devices) : Prop where
  rests : AtRest after.fdc
  media : after.fdc.media = before.fdc.media
  keeping : ∀ start size, Keeping start size before.memory after.memory

theorem Rested.refl (rests : AtRest devices.fdc) : Rested devices devices :=
  ⟨rests, rfl, fun _ _ => .refl _ _ _⟩

theorem Rested.trans {before after after' : Devices} (first : Rested before after)
    (second : Rested after after') : Rested before after' :=
  ⟨second.rests, second.media.trans first.media,
    fun start size => (first.keeping start size).trans (second.keeping start size)⟩

theorem write_byte_rested (rests : AtRest devices.fdc) {offset : Nat} (low : offset < 0x100)
    (value : Byte) : Rested devices (writeByteDS offset value devices) :=
  ⟨rests, rfl, fun _ _ => write_byte_keeping low _ _⟩

theorem failed_rested (rests : AtRest devices.fdc) (status : Byte) :
    Rested devices (failed status devices).devices :=
  write_byte_rested rests (by decide) status

def motorOn (devices : Devices) : Devices :=
  writeByteDS 0x40 floppyOnCount
    { acknowledge devices with fdc := { devices.fdc with dor := 0x1c } }

theorem idle_ready {fdc : Controller} (idle : fdc.phase = .idle) : fdc.status &&& 0xc0 = 0x80 := by
  rw [Controller.status, idle]
  decide

theorem prepare_at_rest (rests : AtRest devices.fdc) :
    floppyPrepareController 0 devices = some (motorOn devices) := by
  have normal : (acknowledge devices).fdc.dor.getLsbD 2 = true := rests.outOfReset
  have previous : (acknowledge devices).fdc.dor &&& 0x04 ≠ 0 := by
    intro zero
    have bit : ((acknowledge devices).fdc.dor &&& 0x04).getLsbD 2 = true := by simp [normal]
    rw [zero] at bit
    exact absurd bit (by decide)
  have high : (0x10 ||| 0x0c ||| 0 : Byte).getLsbD 2 = true := by decide
  have ready : (motorOn devices).fdc.status &&& 0xc0 = 0x80 := idle_ready rests.idle
  have begun : writeByteDS 0x40 floppyOnCount
      (outDor (0x10 ||| 0x0c ||| 0) (acknowledge devices)) = motorOn devices := by
    rw [outDor, out_dor_normal normal high]
    rfl
  simp only [floppyPrepareController, if_true, begun, waitReady, if_pos ready, if_pos previous]
  rfl

theorem motor_on_rested (rests : AtRest devices.fdc) : Rested devices (motorOn devices) where
  rests := ⟨rests.idle, (by decide : (0x1c : Byte).getLsbD 2 = true), rests.bufferIndex⟩
  media := rfl
  keeping start size := by
    have counted : Keeping start size (acknowledge devices).memory (motorOn devices).memory :=
      write_byte_keeping (by decide) _ _
    exact (acknowledge_keeping devices).trans counted

theorem recalibrate_rests {fdc : Controller} (rests : AtRest fdc) :
    AtRest (fdc.recalibrate 0) ∧ (fdc.recalibrate 0).media = fdc.media := by
  rw [Controller.recalibrate, if_neg (not_not_intro rests.idle)]
  exact ⟨⟨rfl, by simp [Controller.enterIdlePhase, rests.outOfReset], rfl⟩, rfl⟩

theorem recal_rested (rests : AtRest devices.fdc) : ∃ after,
    floppyDriveRecal 0 devices = some after ∧ Rested devices after := by
  have ready := motor_on_rested rests
  obtain ⟨calibrated, media⟩ := recalibrate_rests ready.rests
  have begun : Rested (motorOn devices)
      (interrupt { motorOn devices with fdc := (motorOn devices).fdc.recalibrate 0 }) :=
    ⟨calibrated, media, fun _ _ =>
      interrupt_keeping { motorOn devices with fdc := (motorOn devices).fdc.recalibrate 0 }⟩
  simp only [floppyDriveRecal, prepare_at_rest rests, bind, Option.bind_some,
    if_neg (not_not_intro calibrated.idle)]
  have noted : ∀ value, Rested _ (writeByteDS 0x3e value _) := fun value =>
    write_byte_rested begun.rests (by decide) value
  exact ⟨_, rfl, ((ready.trans begun).trans (noted _)).trans
    (write_byte_rested (noted _).rests (by decide : 0x94 < 0x100) 0)⟩

theorem media_sense_rested (cmos : Byte) (rests : AtRest devices.fdc) : ∃ known after,
    floppyMediaSense cmos 0 devices = some (known, after) ∧ Rested devices after ∧
      (cmos >>> 4 = 4 → known = true) := by
  obtain ⟨after, same, rested⟩ := recal_rested rests
  simp only [floppyMediaSense, same, bind, Option.bind_some]
  refine ⟨_, _, rfl, (rested.trans (write_byte_rested rested.rests (by decide) _)).trans
    (write_byte_rested ?_ (by decide) _), fun fitted => ?_⟩
  · exact rested.rests
  · have drive : driveType cmos 0 = 4 := fitted
    rw [drive]
    rfl

theorem media_known (cmos : Byte) (rests : AtRest devices.fdc) : ∃ known devices',
    (if floppyMediaKnown 0 devices then some (true, devices)
      else floppyMediaSense cmos 0 devices) = some (known, devices') ∧
      Rested devices devices' ∧ (cmos >>> 4 = 4 → known = true) := by
  split_ifs
  · exact ⟨true, devices, rfl, .refl rests, fun _ => rfl⟩
  · exact media_sense_rested cmos rests

/-- With the reset bit set before, a reset ends. -/
theorem reset_controller_rested (normal : devices.fdc.dor.getLsbD 2 = true) : ∃ after,
    floppyResetController devices = some after ∧ Rested devices after := by
  have low : (devices.fdc.dor &&& 0xfb).getLsbD 2 = false := by simp
  have high : (devices.fdc.dor ||| 0x04).getLsbD 2 = true := by simp
  have held : outDor (devices.fdc.dor &&& 0xfb) devices = { devices with
      fdc := { devices.fdc with dor := devices.fdc.dor &&& 0xfb, phase := .reset } } := by
    rw [outDor, out_dor_holds normal low]
    rfl
  let reset := { devices.fdc with dor := devices.fdc.dor ||| 0x04, phase := .reset }.reset
  have released : outDor (devices.fdc.dor ||| 0x04) { devices with
      fdc := { devices.fdc with dor := devices.fdc.dor &&& 0xfb, phase := .reset } } =
        interrupt { devices with fdc := reset } := by
    rw [outDor, out_dor_resets low rfl high]
    rfl
  have idle : (interrupt { devices with fdc := reset }).fdc.phase = .idle := rfl
  refine ⟨interrupt { devices with fdc := reset }, ?_, ⟨idle, high, rfl⟩, rfl,
    fun _ _ => interrupt_keeping { devices with fdc := reset }⟩
  rw [floppyResetController, held, released, waitReady]
  exact if_pos (idle_ready idle)

end Rest

section Requests

variable {writeProtected : Bool}

/-- The controller between two calls, with a diskette in drive 0. -/
structure Holding (writeProtected : Bool) (disk : Nat → Byte) (fdc : Controller) : Prop where
  rests : AtRest fdc
  media : fdc.media = some (floppy144 writeProtected disk)

def Idle (disk : Nat → Byte) (fdc : Controller) : Prop :=
  ∃ writeProtected, Holding writeProtected disk fdc

structure Prepared (machine : Machine) (before after : Devices) : Prop extends
    Rested before after where
  dor : after.fdc.dor = 0x1c
  channel : after.channel = transferChannel machine

/-- The parameters a transfer of drive 0 is accepted with. -/
structure Accepted (machine : Machine) : Prop where
  head : (highByte machine.dx).toNat < 2
  sector : 1 ≤ (lowByte machine.cx).toNat
  positive : 1 ≤ (lowByte machine.ax).toNat
  count : (lowByte machine.ax).toNat ≤ 72
  page : (dmaPlace machine.es machine.bx).2.toNat + 512 * (lowByte machine.ax).toNat ≤ 65536

/-- And the transfer begins on the disk. -/
structure Placed (machine : Machine) : Prop where
  accepted : Accepted machine
  cylinder : (highByte machine.cx).toNat < 80
  track : (lowByte machine.cx).toNat ≤ 18

structure Buffered (machine : Machine) : Prop where
  lower : 0x500 ≤ machine.request.start
  upper : machine.request.start + machine.request.size ≤ 0xa0000

theorem prepared_loaded {after : Devices} (holding : Holding writeProtected disk devices.fdc)
    (prepared : Prepared machine devices after) : Loaded writeProtected disk after.fdc where
  idle := prepared.rests.idle
  enabled := by
    rw [prepared.dor]
    decide
  motor := by
    rw [prepared.dor]
    decide
  media := prepared.media.trans holding.media

theorem reset_holding (cmos : Byte) (machine : Machine)
    (holding : Holding writeProtected disk devices.fdc) :
    Holding writeProtected disk (resetDrive cmos machine devices).devices.fdc := by
  simp only [resetDrive]
  split_ifs
  · exact holding
  · exact holding
  · exact holding

theorem accepted_iff (machine : Machine) : Accepted machine ↔
    ¬(1 < highByte machine.dx ∨ lowByte machine.cx = 0 ∨ lowByte machine.ax = 0 ∨
        72 < lowByte machine.ax) ∧
      ¬(transferChannel machine).address + (transferChannel machine).count <
        (transferChannel machine).address := by
  have one : (1 : Byte).toNat = 1 := rfl
  have most : (72 : Byte).toNat = 72 := rfl
  have zero : ∀ byte : Byte, byte = 0 ↔ byte.toNat = 0 := fun _ => BitVec.toNat_inj.symm
  have bound := (dmaPlace machine.es machine.bx).2.isLt
  simp only [transferChannel, BitVec.lt_def, zero, one, most, BitVec.toNat_add,
    BitVec.toNat_ofNat]
  constructor
  · rintro ⟨head, sector, positive, count, page⟩
    constructor <;> omega
  · rintro ⟨checked, page⟩
    constructor <;> omega

structure Untouched (writeProtected : Bool) (disk : Nat → Byte) (before : Memory)
    (devices : Devices) : Prop where
  holding : Holding writeProtected disk devices.fdc
  keeping : ∀ start size, Keeping start size before devices.memory

theorem rested_untouched {after : Devices} (holding : Holding writeProtected disk devices.fdc)
    (rested : Rested devices after) : Untouched writeProtected disk devices.memory after :=
  ⟨⟨rested.rests, rested.media.trans holding.media⟩, rested.keeping⟩

/-- A read or write is refused or the transfer goes ahead. A 1.44 MB drive
refuses for the parameters alone. -/
theorem transfer_cases (cmos : Byte) (rests : AtRest devices.fdc)
    (transfers : highByte machine.ax ≠ 4) (drive : lowByte machine.dx = 0) :
    ((cmos >>> 4 = 4 → ¬Accepted machine) ∧ ∃ reply,
      transferFunction cmos machine devices = some reply ∧ reply.carry = true ∧
        Rested devices reply.devices) ∨
    (Accepted machine ∧ ∃ after, Prepared machine devices after ∧
      transferFunction cmos machine devices = transferSectors machine after) := by
  have first : ¬(1 : Byte) < 0 := by decide
  obtain ⟨known, devices', same, rested, sensed⟩ := media_known cmos rests
  rw [accepted_iff]
  by_cases bad : 1 < highByte machine.dx ∨ lowByte machine.cx = 0 ∨ lowByte machine.ax = 0 ∨
      72 < lowByte machine.ax
  · refine .inl ⟨fun _ checked => checked.1 bad, failed 1 devices, ?_, rfl, failed_rested rests 1⟩
    simp only [transferFunction, drive, first, false_or, if_pos bad]
  by_cases absent : floppyDriveExists cmos 0 = false
  · refine .inl ⟨fun fitted => ?_, failed 0x80 devices, ?_, rfl, failed_rested rests 0x80⟩
    · rw [floppyDriveExists, driveType, if_pos rfl, fitted] at absent
      exact absurd absent (by decide)
    · simp only [transferFunction, drive, first, false_or, if_neg bad, absent, Bool.not_false,
        if_true]
  have present := Bool.eq_true_of_not_eq_false absent
  cases known with
  | false =>
      refine .inl ⟨fun fitted => absurd (sensed fitted) (by decide), failed 0x0c devices', ?_, rfl,
        rested.trans (failed_rested rested.rests 0x0c)⟩
      simp only [transferFunction, drive, first, false_or, if_neg bad, present, same, bind,
        Option.bind_some, Bool.not_true, Bool.not_false, Bool.false_eq_true, if_false, if_true]
  | true =>
      by_cases carry : (transferChannel machine).address + (transferChannel machine).count <
          (transferChannel machine).address
      · refine .inl ⟨fun _ checked => checked.2 carry, failed 9 devices', ?_, rfl,
          rested.trans (failed_rested rested.rests 9)⟩
        simp only [transferFunction, drive, first, false_or, if_neg bad, present, same, transfers,
          if_pos carry, bind, Option.bind_some, Bool.not_true, Bool.false_eq_true, if_false]
      · have set : Rested devices' { devices' with channel := transferChannel machine } :=
          ⟨rested.rests, rfl, fun _ _ => .refl _ _ _⟩
        refine .inr ⟨⟨bad, carry⟩, motorOn { devices' with channel := transferChannel machine },
          ⟨(rested.trans set).trans (motor_on_rested set.rests), rfl, rfl⟩, ?_⟩
        simp only [transferFunction, drive, first, false_or, if_neg bad, present, same, transfers,
          if_neg carry, bind, Option.bind_some, Bool.not_true, Bool.false_eq_true, if_false,
          prepare_at_rest set.rests]

theorem verify_rested (cmos : Byte) (rests : AtRest devices.fdc)
    (verifies : highByte machine.ax = 4) (drive : lowByte machine.dx = 0) : ∃ reply,
    transferFunction cmos machine devices = some reply ∧ Rested devices reply.devices := by
  have first : ¬(1 : Byte) < 0 := by decide
  obtain ⟨known, devices', same, rested, -⟩ := media_known cmos rests
  simp only [transferFunction, drive, first, false_or, same, verifies, bind, Option.bind_some,
    if_true]
  split_ifs
  · exact ⟨_, rfl, failed_rested rests 1⟩
  · exact ⟨_, rfl, failed_rested rests 0x80⟩
  · exact ⟨_, rfl, rested.trans (failed_rested rested.rests 0x0c)⟩
  · refine ⟨_, rfl, rested.trans (write_byte_rested rested.rests ?_ _)⟩
    rw [drive]
    decide

end Requests

section Conclusion

structure Concluded (devices : Devices) (reply : Reply) : Prop where
  media : reply.devices.fdc.media = devices.fdc.media
  keeping : ∀ start size, Keeping start size devices.memory reply.devices.memory

theorem status_keeping (status : List Byte) (devices : Devices) (start size : Nat) :
    Keeping start size devices.memory (recordStatus status (acknowledge (interrupt
      { devices with fdc := devices.fdc.enterIdlePhase }))).memory :=
  ((interrupt_keeping { devices with fdc := devices.fdc.enterIdlePhase }).trans
    (acknowledge_keeping _)).trans (record_status_keeping status _)

/-- However a transfer ends, the controller is at rest when the BIOS returns. -/
theorem conclude_rests {reply : Reply} (normal : devices.fdc.dor.getLsbD 2 = true)
    (returned : concludeTransfer machine devices = some reply) : AtRest reply.devices.fdc := by
  unfold concludeTransfer at returned
  split at returned
  · dsimp only at returned
    split_ifs at returned
    all_goals
      obtain rfl := Option.some.inj returned
      exact ⟨rfl, normal, rfl⟩
  · obtain ⟨after, same, rested⟩ := reset_controller_rested normal
    rw [same] at returned
    obtain rfl := Option.some.inj returned
    exact rested.rests

theorem conclude_succeeded (small : (lowByte machine.dx).toNat ≤ 1)
    (succeeded : Succeeded devices.fdc) : ∃ reply,
    concludeTransfer machine devices = some reply ∧ reply.carry = false ∧
      Concluded devices reply := by
  obtain ⟨status0, rest, phase, clear⟩ := succeeded
  have low : 0x94 + (lowByte machine.dx).toNat < 0x100 := by omega
  simp only [concludeTransfer, phase, List.getD_cons_zero, clear, if_true]
  exact ⟨_, rfl, rfl, rfl, fun _ _ =>
    (status_keeping (status0 :: rest) devices _ _).trans (write_byte_keeping low _ _)⟩

theorem conclude_late (machine : Machine) (devices : Devices)
    (normal : devices.fdc.dor.getLsbD 2 = true)
    (late : ∀ status, devices.fdc.phase ≠ .result status) : ∃ reply,
    concludeTransfer machine devices = some reply ∧ reply.carry = true ∧
      Concluded devices reply := by
  obtain ⟨after, same, rested⟩ := reset_controller_rested normal
  refine ⟨failed 0x80 after, ?_, rfl, rested.media,
    fun start size => (rested.keeping start size).trans (write_byte_keeping (by decide) _ _)⟩
  unfold concludeTransfer
  split
  next status result => exact absurd result (late status)
  · rw [same]
    rfl

variable {status1 : Byte}

theorem conclude_read_erred (devices : Devices) (reads : highByte machine.ax = 2)
    (erred : Erred status1 devices.fdc) : ∃ reply,
    concludeTransfer machine devices = some reply ∧ reply.carry = true ∧
      Concluded devices reply := by
  obtain ⟨status0, rest, phase, error⟩ := erred
  simp only [concludeTransfer, phase, List.getD_cons_zero, error, if_false, reads, if_true]
  exact ⟨_, rfl, rfl, rfl, fun _ _ =>
    (status_keeping (status0 :: status1 :: rest) devices _ _).trans
      (write_byte_keeping (by decide) _ _)⟩

/-- A write fails because of the tab, or the BIOS panics. -/
theorem conclude_write_erred (devices : Devices) (writes : highByte machine.ax = 3)
    (erred : Erred status1 devices.fdc) :
    if status1 &&& 0x02 = 0 then concludeTransfer machine devices = none
    else ∃ reply, concludeTransfer machine devices = some reply ∧ reply.carry = true ∧
      reply.ax = 0x0300 ∧ Concluded devices reply := by
  obtain ⟨status0, rest, phase, error⟩ := erred
  have other : ¬(3 : Byte) = 2 := by decide
  simp only [concludeTransfer, phase, List.getD_cons_zero, List.getD_cons_succ, error, if_false,
    writes, other, ne_eq]
  split_ifs with clear
  · rfl
  · exact ⟨_, rfl, rfl, rfl, rfl, fun _ _ =>
      status_keeping (status0 :: status1 :: rest) devices _ _⟩

theorem conclude_read (reads : highByte machine.ax = 2) (small : (lowByte machine.dx).toNat ≤ 1)
    (normal : devices.fdc.dor.getLsbD 2 = true) : ∃ reply,
    concludeTransfer machine devices = some reply ∧ Concluded devices reply := by
  by_cases result : ∃ status, devices.fdc.phase = .result status
  · obtain ⟨status, phase⟩ := result
    have low : 0x94 + (lowByte machine.dx).toNat < 0x100 := by omega
    simp only [concludeTransfer, phase, reads, if_true]
    split_ifs
    · exact ⟨_, rfl, rfl, fun _ _ =>
        (status_keeping status devices _ _).trans (write_byte_keeping low _ _)⟩
    · exact ⟨_, rfl, rfl, fun _ _ =>
        (status_keeping status devices _ _).trans (write_byte_keeping (by decide) _ _)⟩
  · obtain ⟨reply, same, -, concluded⟩ :=
      conclude_late machine devices normal fun status phase => result ⟨status, phase⟩
    exact ⟨reply, same, concluded⟩

end Conclusion

section Transfers

variable {after : Devices} {writeProtected : Bool}

def transfer (machine : Machine) : Transfer where
  cylinder := highByte machine.cx
  head := highByte machine.dx
  sector := lowByte machine.cx
  count := (lowByte machine.ax).toNat
  page := (dmaPlace machine.es machine.bx).1
  address := (dmaPlace machine.es machine.bx).2

theorem transfer_begins (placed : Placed machine) : (transfer machine).Begins :=
  ⟨placed.accepted.head, placed.cylinder, placed.accepted.sector, placed.track,
    placed.accepted.positive, placed.accepted.count, placed.accepted.page⟩

theorem transfer_place (machine : Machine) : (transfer machine).place = machine.request.start :=
  dma_place machine.es machine.bx

theorem transfer_command (drive : lowByte machine.dx = 0) : transferCommand machine =
    driveCommand (if highByte machine.ax = 2 then 0xe6 else 0xc5) (transfer machine).cylinder
      (transfer machine).head (transfer machine).sector
      (lowByte machine.cx + lowByte machine.ax - 1) := by
  rw [transferCommand, driveCommand, drive]
  rfl

theorem transfer_eot (placed : Placed machine) :
    (lowByte machine.cx + lowByte machine.ax - 1).toNat =
      (transfer machine).sector.toNat + (transfer machine).count - 1 := by
  have first := placed.accepted.sector
  have track := placed.track
  have positive := placed.accepted.positive
  have most := placed.accepted.count
  simp only [transfer]
  bv_omega

theorem transfer_waits
    (reads : (after.fdc.floppyCommand (transferCommand machine)).phase ≠ .reading)
    (writes : (after.fdc.floppyCommand (transferCommand machine)).phase ≠ .writing) :
    transferSectors machine after = concludeTransfer machine
      { after with fdc := after.fdc.floppyCommand (transferCommand machine) } := by
  rw [transferSectors, command_waits writes]
  exact congrArg _ (timers_fixed reads writes patience)

/-- The BIOS waits longer than any transfer takes. -/
theorem patience_enough {count : Nat} (most : count ≤ 72)
    (succeeded : Succeeded (Devices.timer^[count] devices).fdc) :
    Devices.timer^[patience] devices = Devices.timer^[count] devices := by
  have patient : patience = (patience - count) + count := by
    rw [patience]
    omega
  rw [patient, Function.iterate_add_apply]
  exact timers_fixed succeeded.waits.1 succeeded.waits.2 _

theorem transfer_rests {reply : Reply} (prepared : Prepared machine devices after)
    (returned : transferSectors machine after = some reply) : AtRest reply.devices.fdc := by
  refine conclude_rests ?_ returned
  rw [timers_dor]
  exact command_out_of_reset _ prepared.rests.outOfReset

theorem concluded_untouched {fdc : Controller} {reply : Reply}
    (prepared : Prepared machine devices after)
    (returned : transferSectors machine after = some reply)
    (media : fdc.media = some (floppy144 writeProtected disk))
    (concluded : Concluded { after with fdc } reply) :
    Untouched writeProtected disk devices.memory reply.devices :=
  ⟨⟨transfer_rests prepared returned, concluded.media.trans media⟩,
    fun start size => (prepared.keeping start size).trans (concluded.keeping start size)⟩

variable (first : lowByte machine.dx = 0) (holding : Holding writeProtected disk devices.fdc)
  (prepared : Prepared machine devices after)

include first holding prepared

omit first in
theorem command_prepared : (after.fdc.floppyCommand (transferCommand machine)).media =
    some (floppy144 writeProtected disk) :=
  (command_media ..).trans (prepared_loaded holding prepared).media

/-- Beyond the last cylinder the transfer times out. -/
theorem transfer_hangs (small : (highByte machine.dx).toNat < 2)
    (beyond : 80 ≤ (highByte machine.cx).toNat) : ∃ reply,
    transferSectors machine after = some reply ∧ reply.carry = true ∧
      Untouched writeProtected disk devices.memory reply.devices := by
  have hangs : (after.fdc.floppyCommand (transferCommand machine)).phase = .hung := by
    rw [transfer_command first]
    exact command_hangs _ _ _ (prepared_loaded holding prepared) small beyond
  have waits : transferSectors machine after = concludeTransfer machine
      { after with fdc := after.fdc.floppyCommand (transferCommand machine) } :=
    transfer_waits (by rw [hangs]; exact Phase.noConfusion) (by rw [hangs]; exact Phase.noConfusion)
  have normal := (command_reset_bit after.fdc (transferCommand machine)).trans
    prepared.rests.outOfReset
  obtain ⟨reply, same, carry, concluded⟩ := conclude_late machine
    { after with fdc := after.fdc.floppyCommand (transferCommand machine) } normal
    fun status => by rw [hangs]; exact Phase.noConfusion
  exact ⟨reply, waits.trans same, carry, concluded_untouched prepared (waits.trans same)
    (command_prepared holding prepared) concluded⟩

/-- Beyond the last sector of the track the controller reports an error. -/
theorem transfer_errs (small : (highByte machine.dx).toNat < 2)
    (near : (highByte machine.cx).toNat < 80) (beyond : 18 < (lowByte machine.cx).toNat) :
    Erred 0x04 (after.fdc.floppyCommand (transferCommand machine)) ∧
      transferSectors machine after = concludeTransfer machine
        { after with fdc := after.fdc.floppyCommand (transferCommand machine) } := by
  have errs : Erred 0x04 (after.fdc.floppyCommand (transferCommand machine)) := by
    rw [transfer_command first]
    exact command_fails _ _ (prepared_loaded holding prepared) small near beyond
  exact ⟨errs, transfer_waits errs.waits.1 errs.waits.2⟩

/-- On the disk a read succeeds, across tracks and cylinders too. -/
theorem read_transferred (reads : highByte machine.ax = 2) (placed : Placed machine) : ∃ reply,
    transferSectors machine after = some reply ∧ reply.carry = false ∧
      Holding writeProtected disk reply.devices.fdc ∧ ∃ memory,
        Delivered disk after.memory (transfer machine) (transfer machine).count memory ∧
          Keeping 0 0 memory reply.devices.memory := by
  have begins := transfer_begins placed
  have channel : after.channel = ⟨(transfer machine).page, (transfer machine).address,
      BitVec.ofNat 16 (512 * (transfer machine).count - 1), 0x46, false⟩ := by
    rw [prepared.channel, transferChannel, if_pos reads]
    rfl
  have begun := read_begins begins (prepared_loaded holding prepared) prepared.rests.bufferIndex
    (transfer_eot placed) channel
  have fetched := read_completed begins begun
  have small : (lowByte machine.dx).toNat ≤ 1 := by rw [first]; decide
  obtain ⟨reply, same, carry, concluded⟩ := conclude_succeeded small fetched.succeeded
  have returned : transferSectors machine after = some reply := by
    rw [transferSectors, transfer_command first, if_pos reads,
      patience_enough begins.count fetched.succeeded]
    exact same
  exact ⟨reply, returned, carry,
    ⟨transfer_rests prepared returned, concluded.media.trans fetched.media⟩, _,
    fetched.memory, concluded.keeping 0 0⟩

theorem write_begun (writes : highByte machine.ax = 3) (placed : Placed machine) : ∃ begun,
    Storing writeProtected disk after.memory (transfer machine) 0 disk begun ∧
      after.floppyCommand (transferCommand machine) =
        begun.setDrq (floppy144 writeProtected disk) := by
  have other : ¬highByte machine.ax = 2 := by rw [writes]; decide
  have channel : after.channel = ⟨(transfer machine).page, (transfer machine).address,
      BitVec.ofNat 16 (512 * (transfer machine).count - 1), 0x4a, false⟩ := by
    rw [prepared.channel, transferChannel, if_neg other]
    rfl
  rw [transfer_command first, if_neg other]
  exact write_begins (transfer_begins placed) (prepared_loaded holding prepared)
    prepared.rests.bufferIndex (transfer_eot placed) channel

end Transfers

section Reads

variable {writeProtected : Bool} {reply : Reply}

theorem transfer_function (function : highByte machine.ax = 2 ∨ highByte machine.ax = 3 ∨
      highByte machine.ax = 4) (cmos : Byte) (devices : Devices) :
    int13DisketteFunction cmos machine devices = transferFunction cmos machine devices := by
  have two : (2 : Byte).toNat = 2 := rfl
  have three : (3 : Byte).toNat = 3 := rfl
  have four : (4 : Byte).toNat = 4 := rfl
  rcases function with reads | writes | verifies
  · simp only [int13DisketteFunction, reads, two]
  · simp only [int13DisketteFunction, writes, three]
  · simp only [int13DisketteFunction, verifies, four]

/-- What comes back from a read of drive 0: the sectors named, in the order of
the disk and across its tracks as far as it goes, or a failure; in either case
nothing else is written and the controller is ready for the next. -/
structure Answered (writeProtected : Bool) (disk : Nat → Byte) (machine : Machine)
    (devices : Devices) (reply : Reply) : Prop where
  succeeds : reply.carry = false ↔ Placed machine
  delivers : Placed machine → Buffered machine → ∀ index < machine.request.size,
    512 * (transfer machine).lba + index < 512 * 2880 →
      reply.devices.memory (machine.request.start + index) =
        disk (512 * (transfer machine).lba + index)
  keeping : Keeping machine.request.start machine.request.size devices.memory reply.devices.memory
  holding : Holding writeProtected disk reply.devices.fdc

theorem not_answered (refused : ¬Placed machine) (carry : reply.carry = true)
    (untouched : Untouched writeProtected disk devices.memory reply.devices) :
    Answered writeProtected disk machine devices reply where
  succeeds := iff_of_false (by rw [carry]; decide) refused
  delivers placed := absurd placed refused
  keeping := untouched.keeping _ _
  holding := untouched.holding

theorem read_delivered {after : Devices} (first : lowByte machine.dx = 0)
    (holding : Holding writeProtected disk devices.fdc) (prepared : Prepared machine devices after)
    (reads : highByte machine.ax = 2) (placed : Placed machine) : ∃ reply,
    transferSectors machine after = some reply ∧
      Answered writeProtected disk machine devices reply := by
  obtain ⟨reply, same, carry, rests, memory, delivered, keeping⟩ :=
    read_transferred first holding prepared reads placed
  have place := transfer_place machine
  refine ⟨reply, same, iff_of_true carry placed, fun _ buffered index bound on => ?_, ?_, rests⟩
  · have lower := buffered.lower
    have upper := buffered.upper
    rw [keeping _ (by omega) (by omega), ← place]
    exact delivered.inside index bound on (.inl (by omega))
  · intro address other out
    rw [← place] at out
    rw [keeping address other (by omega), delivered.outside address out]
    exact prepared.keeping 0 0 address other (by omega)

theorem read_answered (fitted : cmos >>> 4 = 4)
    (holding : Holding writeProtected disk devices.fdc) (reads : highByte machine.ax = 2)
    (first : lowByte machine.dx = 0) : ∃ reply,
    transferFunction cmos machine devices = some reply ∧
      Answered writeProtected disk machine devices reply := by
  rcases transfer_cases cmos holding.rests (by rw [reads]; decide) first with
    ⟨refused, reply, same, carry, rested⟩ | ⟨accepted, after, prepared, same⟩
  · exact ⟨reply, same, not_answered (fun placed => refused fitted placed.accepted) carry
      (rested_untouched holding rested)⟩
  · rw [same]
    by_cases far : 80 ≤ (highByte machine.cx).toNat
    · obtain ⟨reply, same, carry, untouched⟩ :=
        transfer_hangs first holding prepared accepted.head far
      exact ⟨reply, same, not_answered (fun placed => absurd placed.cylinder (by omega)) carry
        untouched⟩
    · by_cases beyond : 18 < (lowByte machine.cx).toNat
      · obtain ⟨errs, waits⟩ :=
          transfer_errs first holding prepared accepted.head (by omega) beyond
        obtain ⟨reply, same, carry, concluded⟩ :=
          conclude_read_erred { after with fdc := _ } reads errs
        exact ⟨reply, waits.trans same, not_answered
          (fun placed => absurd placed.track (by omega)) carry
          (concluded_untouched prepared (waits.trans same) (command_prepared holding prepared)
            concluded)⟩
      · exact read_delivered first holding prepared reads ⟨accepted, by omega, by omega⟩

theorem prepared_confined {after : Devices} (accepted : Accepted machine)
    (prepared : Prepared machine devices after) : Confined machine.request.start
      (machine.request.start + machine.request.size) after.memory after := by
  have positive := accepted.positive
  have most := accepted.count
  have page := accepted.page
  have size : machine.request.size = 512 * (lowByte machine.ax).toNat := rfl
  have place : after.channel.place = machine.request.start := by
    rw [prepared.channel]
    exact transfer_place machine
  have address : after.channel.address = (dmaPlace machine.es machine.bx).2 := by
    rw [prepared.channel]
    rfl
  have count : after.channel.count.toNat = 512 * (lowByte machine.ax).toNat - 1 := by
    have set : after.channel.count = BitVec.ofNat 16 (512 * (lowByte machine.ax).toNat - 1) := by
      rw [prepared.channel]
      rfl
    rw [set, BitVec.toNat_ofNat]
    omega
  refine ⟨.inr ⟨place.ge, ?_, ?_⟩, fun _ _ => rfl⟩
  · omega
  · rw [address]
    omega

/-- On any medium, in any drive or none, a read comes back, with the controller
at rest and nothing written but the buffer and the data area. -/
theorem read_returns (cmos : Byte) (rests : AtRest devices.fdc) (reads : highByte machine.ax = 2)
    (first : lowByte machine.dx = 0) : ∃ reply,
    transferFunction cmos machine devices = some reply ∧ AtRest reply.devices.fdc ∧
      Keeping machine.request.start machine.request.size devices.memory reply.devices.memory := by
  rcases transfer_cases cmos rests (by rw [reads]; decide) first with
    ⟨-, reply, same, -, rested⟩ | ⟨accepted, after, prepared, same⟩
  · exact ⟨reply, same, rested.rests, rested.keeping _ _⟩
  have confined := timers_confined
    (command_confined (prepared_confined accepted prepared) (transferCommand machine)) patience
  have normal := (timers_dor patience (after.floppyCommand (transferCommand machine))).symm ▸
    command_out_of_reset (transferCommand machine) prepared.rests.outOfReset
  obtain ⟨reply, returned, concluded⟩ := conclude_read reads (by rw [first]; decide) normal
  refine ⟨reply, same.trans returned, transfer_rests prepared returned, fun address other out => ?_⟩
  rw [concluded.keeping 0 0 address other (by omega), confined.outside address out]
  exact prepared.keeping 0 0 address other (by omega)

variable (answered : Answered writeProtected disk machine devices reply)

include answered

theorem Answered.refused (beyond : 80 ≤ machine.request.cylinder) : reply.carry = true := by
  rw [← Bool.not_eq_false, answered.succeeds]
  intro placed
  have cylinder := placed.cylinder
  have track := placed.track
  simp only [Machine.request] at beyond
  omega

theorem Answered.data (placed : Placed machine) (formed : machine.request.WellFormed)
    (buffered : Buffered machine) (index : Nat) (bound : index < machine.request.size) :
    reply.devices.memory (machine.request.start + index) =
      disk (512 * machine.request.lba + index) := by
  have track := formed.track
  have cylinder := placed.cylinder
  have head := placed.accepted.head
  have low : (lowByte machine.cx).toNat % 64 = (lowByte machine.cx).toNat ∧
      (lowByte machine.cx).toNat / 64 = 0 := by
    have sector := placed.track
    omega
  have lba : (transfer machine).lba = machine.request.lba := by
    simp only [Transfer.lba, transfer, Request.lba, Machine.request, low]
    omega
  rw [← lba]
  refine answered.delivers placed buffered index bound ?_
  simp only [Request.size, Machine.request, low] at track bound
  simp only [Transfer.lba, transfer]
  omega

theorem Answered.succeeded (present : machine.request.OnDisk) : reply.carry = false := by
  obtain ⟨formed, bound⟩ := present
  have page := formed.page
  have sector := formed.sector
  have track := formed.track
  have count := formed.count
  have head := formed.head
  have place := dma_place machine.es machine.bx
  have offset := (dmaPlace machine.es machine.bx).2.isLt
  rw [answered.succeeds]
  simp only [Machine.request, Request.lba, Request.start, Request.size]
    at page sector track count head bound
  refine ⟨⟨?_, ?_, ?_, ?_, ?_⟩, ?_, ?_⟩ <;> omega

end Reads

section Writes

variable {writeProtected : Bool}

/-- The bytes of the disk that a write names, and what it puts there. -/
def extent (machine : Machine) (memory : Memory) : Extent Byte where
  first := 512 * (transfer machine).lba
  length := machine.request.size
  data index := memory (machine.request.start + index)

/-- What becomes of a write to drive 0. If it is refused, or the diskette is
write-protected, nothing changes; else exactly the sectors named do. -/
structure Written (writeProtected : Bool) (disk : Nat → Byte) (machine : Machine)
    (devices : Devices) (result : Option Reply) : Prop where
  refused : ¬Accepted machine ∨ 80 ≤ (highByte machine.cx).toNat → ∃ reply,
    result = some reply ∧ reply.carry = true ∧
      Untouched writeProtected disk devices.memory reply.devices
  panics : Accepted machine → (highByte machine.cx).toNat < 80 →
    18 < (lowByte machine.cx).toNat → result = none
  unwritable : Placed machine → writeProtected = true → ∃ reply,
    result = some reply ∧ reply.carry = true ∧ reply.ax = 0x0300 ∧
      Untouched writeProtected disk devices.memory reply.devices
  stores : Placed machine → writeProtected = false → ∃ reply content,
    result = some reply ∧ reply.carry = false ∧
      Untouched writeProtected content devices.memory reply.devices ∧
        (Buffered machine →
          Agree (512 * 2880) content ((extent machine devices.memory).write disk))

variable {after : Devices}

theorem recorded_extent {memory : Memory} (buffered : Buffered machine)
    (keeping : Keeping 0 0 devices.memory memory) :
    recorded (transfer machine) disk memory (transfer machine).count =
      (extent machine devices.memory).write disk := by
  refine replace_congr fun index bound => ?_
  have lower := buffered.lower
  rw [transfer_place]
  exact keeping _ (by omega) (by omega)

theorem write_stores (first : lowByte machine.dx = 0) (writes : highByte machine.ax = 3)
    (holding : Holding false disk devices.fdc) (prepared : Prepared machine devices after)
    (placed : Placed machine) :
    ∃ reply content, transferSectors machine after = some reply ∧ reply.carry = false ∧
      Untouched false content devices.memory reply.devices ∧
        (Buffered machine →
          Agree (512 * 2880) content ((extent machine devices.memory).write disk)) := by
  obtain ⟨begun, storing, same⟩ := write_begun first holding prepared writes placed
  obtain ⟨content, stored⟩ := write_completed (transfer_begins placed) storing
  have small : (lowByte machine.dx).toNat ≤ 1 := by rw [first]; decide
  obtain ⟨reply, done, carry, concluded⟩ := conclude_succeeded small stored.succeeded
  have returned : transferSectors machine after = some reply := by
    rw [transferSectors, same, patience_enough placed.accepted.count stored.succeeded]
    exact done
  refine ⟨reply, content, returned, carry,
    ⟨⟨transfer_rests prepared returned, concluded.media.trans stored.media⟩,
      fun start size => ?_⟩, fun buffered => ?_⟩
  · have kept := concluded.keeping start size
    rw [stored.memory] at kept
    exact (prepared.keeping start size).trans kept
  · rw [← recorded_extent buffered (prepared.keeping 0 0)]
    exact stored.content

theorem write_unwritable (first : lowByte machine.dx = 0) (writes : highByte machine.ax = 3)
    (holding : Holding true disk devices.fdc) (prepared : Prepared machine devices after)
    (placed : Placed machine) :
    ∃ reply, transferSectors machine after = some reply ∧ reply.carry = true ∧
      reply.ax = 0x0300 ∧ Untouched true disk devices.memory reply.devices := by
  obtain ⟨begun, storing, same⟩ := write_begun first holding prepared writes placed
  obtain ⟨erred, media, memory⟩ := write_protected (transfer_begins placed) storing
  have fixed : Devices.timer^[patience] (begun.setDrq (floppy144 true disk)) =
      begun.setDrq (floppy144 true disk) :=
    timers_fixed erred.waits.1 erred.waits.2 _
  have result := conclude_write_erred _ writes erred
  rw [if_neg (by decide)] at result
  obtain ⟨reply, done, carry, ax, concluded⟩ := result
  have returned : transferSectors machine after = some reply := by
    rw [transferSectors, same, fixed]
    exact done
  refine ⟨reply, returned, carry, ax,
    ⟨⟨transfer_rests prepared returned, concluded.media.trans media⟩, fun start size => ?_⟩⟩
  have kept := concluded.keeping start size
  rw [memory] at kept
  exact (prepared.keeping start size).trans kept

theorem write_written (fitted : cmos >>> 4 = 4)
    (holding : Holding writeProtected disk devices.fdc) (writes : highByte machine.ax = 3)
    (first : lowByte machine.dx = 0) :
    Written writeProtected disk machine devices (transferFunction cmos machine devices) := by
  rcases transfer_cases cmos holding.rests (by rw [writes]; decide) first with
    ⟨refused, reply, same, carry, rested⟩ | ⟨accepted, after, prepared, same⟩
  · exact
      { refused := fun _ => ⟨reply, same, carry, rested_untouched holding rested⟩
        panics := fun accepted => absurd accepted (refused fitted)
        unwritable := fun placed => absurd placed.accepted (refused fitted)
        stores := fun placed => absurd placed.accepted (refused fitted) }
  · rw [same]
    constructor
    · intro refused
      exact transfer_hangs first holding prepared accepted.head
        (refused.resolve_left (not_not_intro accepted))
    · intro _ near beyond
      obtain ⟨errs, waits⟩ := transfer_errs first holding prepared accepted.head near beyond
      have result := conclude_write_erred { after with fdc := _ } writes errs
      rw [if_pos (by decide)] at result
      exact waits.trans result
    · rintro placed rfl
      exact write_unwritable first writes holding prepared placed
    · rintro placed rfl
      exact write_stores first writes holding prepared placed

end Writes

section Contract

variable {writeProtected : Bool}

theorem diskette_written (fitted : cmos >>> 4 = 4)
    (holding : Holding writeProtected disk devices.fdc) (writes : highByte machine.ax = 3)
    (first : lowByte machine.dx = 0) :
    Written writeProtected disk machine devices (int13DisketteFunction cmos machine devices) := by
  rw [transfer_function (.inr (.inl writes))]
  exact write_written fitted holding writes first

end Contract

section Instance

def idleController (disk : Nat → Byte) : Controller where
  dor := 0x0c
  multiTrack := false
  cylinder := 0
  head := 0
  sector := 0
  eot := 0
  status0 := 0
  status1 := 0
  status2 := 0
  buffer := fun _ => 0
  bufferIndex := 0
  terminalCount := false
  media := some (floppy144 false disk)
  phase := .idle

theorem idle_controller_holding (disk : Nat → Byte) :
    Holding false disk (idleController disk) :=
  ⟨⟨rfl, (by decide : (0x0c : Byte).getLsbD 2 = true), rfl⟩, rfl⟩

def transferMachine (function count cylinder head sector : Byte) : Machine where
  ax := wordOf function count
  bx := 0
  cx := wordOf cylinder sector
  dx := wordOf head 0
  si := 0
  di := 0
  bp := 0
  sp := 0x7c00
  espHigh := 0
  cs := 0
  ds := 0
  es := 0x1000
  ss := 0
  ip := 0
  carry := false
  zero := false
  direction := false
  memory := fun address => BitVec.ofNat 8 address

def idleDevices (disk : Nat → Byte) (memory : Memory) : Devices :=
  ⟨idleController disk, ⟨0, 0, 0, 0, true⟩, memory⟩

theorem idle_devices_holding (disk : Nat → Byte) (memory : Memory) :
    Holding false disk (idleDevices disk memory).fdc :=
  idle_controller_holding disk

theorem twenty_sectors_written :
    Written false (fun index => BitVec.ofNat 8 index) (transferMachine 3 20 0 1 17)
      (idleDevices (fun index => BitVec.ofNat 8 index) fun _ => 0)
      (int13DisketteFunction 0x40 (transferMachine 3 20 0 1 17)
        (idleDevices (fun index => BitVec.ofNat 8 index) fun _ => 0)) :=
  diskette_written (by decide) (idle_devices_holding _ _) (by decide) (by decide)

end Instance

end BootSector.Diskette
