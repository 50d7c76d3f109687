import BootSector.Emulator

/-!
# The bootstrap of the BIOS

`int19_function` and `int18_handler` of `bios/rombios.c`: the devices of the
boot sequence are tried one after the other, and the first with a boot sector
gets the processor. The stack of the BIOS, from `0:FFFE` down, is taken to stay
above the sector at 7C00h; the texts go to a string.
-/

namespace BootSector.Bootstrap

open RealMode Bios Program Floppy FloppyController Diskette Emulator

section Tables

def iplSeg : Word := 0x9ff0

def iplCountOffset : Word := 0x80

def iplSequenceOffset : Word := 0x82

def iplBootfirstOffset : Word := 0x84

/-- `ipl_entry_t`, as far as it is read. -/
structure IplEntry where
  type : Word
  vectorLow : Word
  vectorHigh : Word

def iplTypeFloppy : Word := 0x01

def iplTypeHarddisk : Word := 0x02

def iplTypeCdrom : Word := 0x03

def iplTypeBev : Word := 0x80

/-- A floppy, a hard disk and a CD-ROM, and no choice of the user's. -/
def initBootVectors (memory : Memory) : Memory :=
  let cleared : Memory := fun address =>
    if 0x9ff00 ≤ address ∧ address < 0x9ff86 then 0 else memory address
  ((((cleared.setWord iplSeg iplBootfirstOffset 0xffff).setWord iplSeg 0 iplTypeFloppy).setWord
    iplSeg 16 iplTypeHarddisk).setWord iplSeg 32 iplTypeCdrom |>.setWord
    iplSeg iplCountOffset 3).setWord iplSeg iplSequenceOffset 0xffff

def getBootVector (i : Word) (memory : Memory) : Option IplEntry :=
  if memory.word iplSeg iplCountOffset ≤ i then none
  else some
    { type := memory.word iplSeg (16 * i)
      vectorLow := memory.word iplSeg (16 * i + 4)
      vectorHigh := memory.word iplSeg (16 * i + 6) }

end Tables

section Texts

def drivetypes : List String := ["", "Floppy", "Hard Disk", "CD-Rom", "Network"]

/-- None for a type that there is not. The product string of a network card is
left out. -/
def printBootDevice (type : Word) : Option String :=
  let type := if type = iplTypeBev then 4 else type
  if type = 0 ∨ 4 < type then none
  else some ("Booting from " ++ drivetypes.getD type.toNat "" ++ "...\n")

/-- For types 1 to 3. -/
def printBootFailure (reason : Byte) : String :=
  "Boot failed" ++
    (if reason = 0 then ": not a bootable disk" else ": could not read the boot disk") ++ "\n\n"

def hexadecimal (word : Word) : String :=
  String.ofList ((List.range 4).map fun place => Nat.digitChar (word.toNat / 16 ^ (3 - place) % 16))

def printCdrombootFailure (code : Word) : String :=
  "CDROM boot failure code : " ++ hexadecimal code ++ "\n"

/-- `BX_PANIC`, on the screen. -/
def fatal (text : String) : String := "FATAL: " ++ text

end Texts

section Attempts

/-- What the BIOS finds of the machine: the platform of the diskette drive, the
registers it does not set, and the other devices. `cdromBoot` returns with its
status and the segment it loaded. -/
structure Environment where
  platform : Platform
  registers : Machine
  hardDisk : Devices → Bool × Devices
  cdromBoot : Devices → Word × Word × Devices

structure Post where
  devices : Devices
  output : String

def Post.print (text : String) (post : Post) : Post := { post with output := post.output ++ text }

def Post.setIpl (offset value : Word) (post : Post) : Post :=
  { post with devices.memory := post.devices.memory.setWord iplSeg offset value }

/-- How a call of `int19_function` ends, if the BIOS comes back from the devices. -/
inductive Attempt where
  | jumps (bootseg bootip : Word) (bootdrv : Byte)
  | returns
  | panics
  | hangs
  deriving DecidableEq

variable (env : Environment)

/-- A place of the boot sequence, of four bits. -/
def bootDevice (cmos : Nat → Byte) (seqNr : Word) : Word :=
  let bootdev := wordOf 0 (cmos 0x3d) ||| wordOf 0 (cmos 0x38 &&& 0xf0) <<< 4
  bootdev >>> (4 * seqNr.toNat) &&& 0xf

def bootRead (registers : Machine) : Machine :=
  { registers with es := 0x07c0, bx := 0, ax := 0x0201, cx := 0x0001, dx := 0x0000 }

def onStack (stack memory : Memory) : Memory := fun address =>
  if 0x7e00 ≤ address ∧ address < 0x10000 then stack address else memory address

/-- `INT 13h` for the boot sector of the drive: the carry, and the devices
after it. -/
def loadBootSector (type : Word) (devices : Devices) : Option (Bool × Devices) := do
  let (carry, devices) ←
    (if type = iplTypeHarddisk then some (env.hardDisk devices)
    else (int13DisketteFunction (env.platform.cmos 0x10) (bootRead env.registers) devices).map
      fun reply => (reply.carry, reply.devices) : Option (Bool × Devices))
  some (carry, { devices with memory := onStack (env.platform.stack []) devices.memory })

/-- A diskette need not be signed if the CMOS says so. -/
def bootDisk (type : Word) (post : Post) : Attempt × Post :=
  match loadBootSector env type post.devices with
  | none => (.hangs, post)
  | some (carry, devices) =>
      let post := { post with devices }
      if carry then (.returns, post.print (printBootFailure 1))
      else if (type ≠ iplTypeFloppy ∨ env.platform.cmos 0x38 &&& 0x01 = 0) ∧
          devices.memory.word 0x07c0 0x1fe ≠ 0xaa55 then
        (.returns, post.print (printBootFailure 0))
      else (.jumps 0 0x7c00 (if type = iplTypeHarddisk then 0x80 else 0x00), post)

def bootCdrom (post : Post) : Attempt × Post :=
  let (status, segment, devices) := env.cdromBoot post.devices
  let post := { post with devices }
  if lowByte status ≠ 0 then
    (.returns, (post.print (printCdrombootFailure status)).print (printBootFailure 1))
  else (.jumps segment 0 (highByte status), post)

/-- The device that is tried, and what is left of the user's choice. -/
def chooseDevice (seqNr : Word) (post : Post) : Option Word × Post :=
  let bootfirst := post.devices.memory.word iplSeg iplBootfirstOffset
  if bootfirst ≠ 0xffff then
    (some bootfirst, (post.setIpl iplBootfirstOffset 0xffff).setIpl iplSequenceOffset 0xffff)
  else
    let bootdev := bootDevice env.platform.cmos seqNr
    (if bootdev = 0 then none else some bootdev, post)

/-- For an expansion ROM the drive number is what happens to be in `DL`. -/
def bootFrom (e : IplEntry) (post : Post) : Attempt × Post :=
  match printBootDevice e.type with
  | none => (.panics, post.print (fatal "Bad drive type\n"))
  | some text =>
      let post := post.print text
      if e.type = iplTypeFloppy ∨ e.type = iplTypeHarddisk then bootDisk env e.type post
      else if e.type = iplTypeCdrom then bootCdrom env post
      else if e.type = iplTypeBev then
        (.jumps e.vectorHigh e.vectorLow (lowByte env.registers.dx), post)
      else (.returns, post)

def int19Function (seqNr : Word) (post : Post) : Attempt × Post :=
  match chooseDevice env seqNr post with
  | (none, post) => (.panics, post.print (fatal "No bootable device.\n"))
  | (some bootdev, post) =>
      match getBootVector (bootdev - 1) post.devices.memory with
      | none => (.returns, post)
      | some e => bootFrom env e post

end Attempts

section Stages

inductive Stage where
  | trying (seqNr : Word) (post : Post)
  | left (bootseg bootip : Word) (bootdrv : Byte) (post : Post)
  | panicked (post : Post)

def Stage.Over : Stage → Prop
  | .trying .. => False
  | _ => True

def Stage.post : Stage → Post
  | .trying _ post | .left _ _ _ post | .panicked post => post

variable (env : Environment)

def Stage.next : Stage → Stage
  | .trying seqNr post =>
      match int19Function env seqNr post with
      | (.jumps bootseg bootip bootdrv, post) => .left bootseg bootip bootdrv post
      | (.returns, post) =>
          let seqNr := post.devices.memory.word iplSeg iplSequenceOffset + 1
          .trying seqNr (post.setIpl iplSequenceOffset seqNr)
      | (.panics, post) => .panicked post
      | (.hangs, _) => .trying seqNr post
  | stage => stage

/-- `int19_relocated`, before the first attempt. -/
def int19 (post : Post) : Stage := .trying 0 (post.setIpl iplSequenceOffset 0)

/-- The processor as `IRET` leaves it at the boot vector. -/
def handOver (bootseg bootip : Word) (bootdrv : Byte) (post : Post) : Config where
  machine :=
    { env.registers with
      ax := 0xaa55, bx := 0, dx := wordOf (highByte env.registers.dx) bootdrv, bp := 0
      ds := 0, es := 0, ss := 0, cs := bootseg, ip := bootip
      memory := onStack (env.platform.stack []) post.devices.memory }
  fault := false
  call := ⟨0, 0, 0⟩
  log := []

end Stages


variable {env : Environment} {disk : Disk} {post post' : Post} {seqNr : Word} {devices : Devices}

section Tables

def SameTable (memory memory' : Memory) : Prop :=
  ∀ address, 0x9ff00 ≤ address → address < 0x9ff86 → memory' address = memory address

theorem SameTable.word {memory memory' : Memory} (same : SameTable memory memory') {offset : Word}
    (inside : offset.toNat + 1 < 0x86) :
    memory'.word iplSeg offset = memory.word iplSeg offset := by
  have segment : iplSeg.toNat = 0x9ff0 := rfl
  have next : (offset + 1).toNat = offset.toNat + 1 := by bv_omega
  apply Memory.word_congr
  · refine same _ ?_ ?_ <;> simp only [physical, segment] <;> omega
  · refine same _ ?_ ?_ <;> simp only [physical, segment, next] <;> omega

theorem SameTable.trans {memory memory' memory'' : Memory} (first : SameTable memory memory')
    (second : SameTable memory' memory'') : SameTable memory memory'' :=
  fun address lower upper => (second address lower upper).trans (first address lower upper)

theorem on_stack_same (stack memory : Memory) : SameTable memory (onStack stack memory) :=
  fun _ _ _ => if_neg (by omega)

structure Listed (memory : Memory) : Prop where
  count : memory.word iplSeg iplCountOffset = 3
  floppy : memory.word iplSeg 0 = iplTypeFloppy
  hardDisk : memory.word iplSeg 16 = iplTypeHarddisk
  cdrom : memory.word iplSeg 32 = iplTypeCdrom

theorem init_boot_vectors_listed (memory : Memory) : Listed (initBootVectors memory) := by
  constructor
  · rw [initBootVectors, Memory.word_set_word_apart _ (by decide) (by decide) (by decide),
      Memory.word_set_word]
  · rw [initBootVectors]
    iterate 4 rw [Memory.word_set_word_apart _ (by decide) (by decide) (by decide)]
    rw [Memory.word_set_word]
  · rw [initBootVectors]
    iterate 3 rw [Memory.word_set_word_apart _ (by decide) (by decide) (by decide)]
    rw [Memory.word_set_word]
  · rw [initBootVectors]
    iterate 2 rw [Memory.word_set_word_apart _ (by decide) (by decide) (by decide)]
    rw [Memory.word_set_word]

theorem Listed.of_same {memory memory' : Memory} (listed : Listed memory)
    (same : SameTable memory memory') : Listed memory' where
  count := (same.word (by decide)).trans listed.count
  floppy := (same.word (by decide)).trans listed.floppy
  hardDisk := (same.word (by decide)).trans listed.hardDisk
  cdrom := (same.word (by decide)).trans listed.cdrom

theorem Listed.set_ipl {memory : Memory} (listed : Listed memory) {offset : Word}
    (behind : offset = iplSequenceOffset ∨ offset = iplBootfirstOffset) (value : Word) :
    Listed (memory.setWord iplSeg offset value) := by
  have apart : ∀ other : Word, other.toNat + 1 < 0x82 →
      (memory.setWord iplSeg offset value).word iplSeg other = memory.word iplSeg other := by
    intro other before
    have place : 0x82 ≤ offset.toNat ∧ offset.toNat ≤ 0x84 := by
      rcases behind with rfl | rfl <;> decide
    apply Memory.word_set_word_apart
    · bv_omega
    · bv_omega
    · bv_omega
  exact ⟨(apart _ (by decide)).trans listed.count, (apart _ (by decide)).trans listed.floppy,
    (apart _ (by decide)).trans listed.hardDisk, (apart _ (by decide)).trans listed.cdrom⟩

end Tables

section Attempts

variable {order : Controller → Prop}

/-- The diskette controller is in order, and the boot table as it was. -/
structure Kept (order : Controller → Prop) (devices devices' : Devices) : Prop where
  inOrder : order devices'.fdc
  same : SameTable devices.memory devices'.memory

theorem kept_same (inOrder : order devices.fdc) : Kept order devices devices :=
  ⟨inOrder, fun _ _ _ => rfl⟩

/-- The other devices leave the boot table and the diskette drive alone. -/
structure Quiet (env : Environment) (order : Controller → Prop) : Prop where
  hardDisk : ∀ devices, order devices.fdc → Kept order devices (env.hardDisk devices).2
  cdrom : ∀ devices, order devices.fdc → Kept order devices (env.cdromBoot devices).2.2

/-- So does the read of a boot sector from the diskette, which comes back. -/
structure Steady (env : Environment) (order : Controller → Prop) : Prop extends
    Quiet env order where
  diskette : ∀ devices, order devices.fdc → ∃ carry devices',
    loadBootSector env iplTypeFloppy devices = some (carry, devices') ∧
      Kept order devices devices'

structure Ready (env : Environment) (disk : Disk) : Prop where
  fitted : Fitted env.platform
  quiet : Quiet env (Idle disk)

theorem boot_read_placed (registers : Machine) : Placed (bootRead registers) where
  accepted :=
    { head := (by decide : (highByte 0x0000).toNat < 2)
      sector := (by decide : 1 ≤ (lowByte 0x0001).toNat)
      positive := (by decide : 1 ≤ (lowByte 0x0201).toNat)
      count := (by decide : (lowByte 0x0201).toNat ≤ 72)
      page := (by decide : (dmaPlace 0x07c0 0).2.toNat + 512 * (lowByte 0x0201).toNat ≤ 65536) }
  cylinder := (by decide : (highByte 0x0001).toNat < 80)
  track := (by decide : (lowByte 0x0001).toNat ≤ 18)

section BootSector

variable (env : Environment)

theorem boot_read_start : (bootRead env.registers).request.start = 0x7c00 :=
  (by decide : physical 0x07c0 0 = 0x7c00)

theorem boot_read_size : (bootRead env.registers).request.size = 512 :=
  (by decide : 512 * (lowByte 0x0201).toNat = 512)

theorem boot_read_reads : highByte (bootRead env.registers).ax = 2 :=
  (by decide : highByte 0x0201 = 2)

theorem boot_read_first : lowByte (bootRead env.registers).dx = 0 :=
  (by decide : lowByte 0x0000 = 0)

variable {env}

theorem load_returned {reply : Reply}
    (returned : transferFunction (env.platform.cmos 0x10) (bootRead env.registers) devices =
      some reply) : loadBootSector env iplTypeFloppy devices = some (reply.carry,
        { reply.devices with
          memory := onStack (env.platform.stack []) reply.devices.memory }) := by
  rw [loadBootSector, if_neg (by decide), transfer_function (.inl (boot_read_reads env)), returned]
  rfl

theorem load_kept_table {reply : Reply} (inOrder : order reply.devices.fdc)
    (keeping : Keeping (bootRead env.registers).request.start (bootRead env.registers).request.size
      devices.memory reply.devices.memory) :
    Kept order devices { reply.devices with
      memory := onStack (env.platform.stack []) reply.devices.memory } where
  inOrder := inOrder
  same := by
    have table : SameTable devices.memory reply.devices.memory := by
      intro address lower upper
      refine keeping address (.inr (by omega)) ?_
      rw [boot_read_start, boot_read_size]
      omega
    exact table.trans (on_stack_same _ _)

theorem load_floppy (ready : Ready env disk) (idle : Idle disk devices.fdc) :
    ∃ devices', loadBootSector env iplTypeFloppy devices = some (false, devices') ∧
      Kept (Idle disk) devices devices' ∧
      ∀ index < 512, devices'.memory (0x7c00 + index) = disk index := by
  have start := boot_read_start env
  have size := boot_read_size env
  have placed := boot_read_placed env.registers
  have buffered : Buffered (bootRead env.registers) := ⟨by omega, by omega⟩
  have lba : (transfer (bootRead env.registers)).lba = 0 := by
    simp only [Transfer.lba, transfer, bootRead]
    decide
  obtain ⟨tab, holding⟩ := idle
  obtain ⟨reply, same, answered⟩ :=
    read_answered ready.fitted.cmos holding (boot_read_reads env) (boot_read_first env)
  rw [load_returned same, answered.succeeds.mpr placed]
  refine ⟨_, rfl, load_kept_table ⟨tab, answered.holding⟩ answered.keeping, ?_⟩
  intro index bound
  have sector := answered.delivers placed buffered index (by rw [size]; exact bound)
    (by rw [lba]; omega)
  rw [start, lba, Nat.mul_zero, Nat.zero_add] at sector
  rw [← sector]
  exact if_neg (by omega)

theorem ready_steady (ready : Ready env disk) : Steady env (Idle disk) where
  toQuiet := ready.quiet
  diskette devices idle := by
    obtain ⟨devices', loaded, kept, -⟩ := load_floppy ready idle
    exact ⟨false, devices', loaded, kept⟩

theorem rest_steady (quiet : Quiet env AtRest) : Steady env AtRest where
  toQuiet := quiet
  diskette devices rests := by
    obtain ⟨reply, same, after, keeping⟩ := read_returns (env.platform.cmos 0x10) rests
      (boot_read_reads env) (boot_read_first env)
    exact ⟨_, _, load_returned same, load_kept_table after keeping⟩

end BootSector

structure Posted (disk : Disk) (post : Post) : Prop where
  idle : Idle disk post.devices.fdc
  listed : Listed post.devices.memory

theorem Posted.set_ipl (posted : Posted disk post) {offset : Word}
    (behind : offset = iplSequenceOffset ∨ offset = iplBootfirstOffset) (value : Word) :
    Posted disk (post.setIpl offset value) :=
  ⟨posted.idle, posted.listed.set_ipl behind value⟩

theorem choose_posted (env : Environment) (seqNr : Word) (posted : Posted disk post) :
    Posted disk (chooseDevice env seqNr post).2 := by
  rw [chooseDevice]
  split_ifs
  · exact (posted.set_ipl (.inr rfl) _).set_ipl (.inl rfl) _
  · exact posted

structure Attempted (order : Controller → Prop) (devices : Devices) (result : Attempt × Post) :
    Prop where
  comes : result.1 ≠ .hangs
  kept : Kept order devices result.2.devices

theorem boot_disk_attempted (steady : Steady env order) {type : Word}
    (drive : type = iplTypeFloppy ∨ type = iplTypeHarddisk) (inOrder : order post.devices.fdc) :
    Attempted order post.devices (bootDisk env type post) := by
  have loaded : ∃ carry devices', loadBootSector env type post.devices = some (carry, devices') ∧
      Kept order post.devices devices' := by
    rcases drive with rfl | rfl
    · exact steady.diskette _ inOrder
    · have kept := steady.hardDisk _ inOrder
      rw [loadBootSector, if_pos rfl]
      exact ⟨_, _, rfl, kept.inOrder, kept.same.trans (on_stack_same _ _)⟩
  obtain ⟨carry, devices', loaded, kept⟩ := loaded
  simp only [bootDisk, loaded]
  split_ifs <;> exact ⟨nofun, kept⟩

theorem boot_cdrom_attempted (quiet : Quiet env order) (inOrder : order post.devices.fdc) :
    Attempted order post.devices (bootCdrom env post) := by
  have kept := quiet.cdrom _ inOrder
  simp only [bootCdrom]
  split_ifs
  · exact ⟨nofun, kept⟩
  · exact ⟨nofun, kept⟩

theorem boot_from_attempted (steady : Steady env order) (e : IplEntry)
    (inOrder : order post.devices.fdc) :
    Attempted order post.devices (bootFrom env e post) := by
  have same := kept_same inOrder
  unfold bootFrom
  split
  · exact ⟨nofun, same⟩
  · rename_i text _
    have printed : order (post.print text).devices.fdc := inOrder
    dsimp only
    split_ifs with drive
    · have attempted := boot_disk_attempted steady drive printed
      exact attempted
    · have attempted := boot_cdrom_attempted steady.toQuiet printed
      exact attempted
    · exact ⟨nofun, same⟩
    · exact ⟨nofun, same⟩

theorem choose_fdc (env : Environment) (seqNr : Word) (post : Post) :
    (chooseDevice env seqNr post).2.devices.fdc = post.devices.fdc := by
  rw [chooseDevice]
  split_ifs <;> rfl

theorem int19_attempted (steady : Steady env order) (seqNr : Word)
    (inOrder : order post.devices.fdc) :
    Attempted order (chooseDevice env seqNr post).2.devices (int19Function env seqNr post) := by
  rw [← choose_fdc env seqNr] at inOrder
  unfold int19Function
  split
  · rename_i chosen same
    rw [same] at inOrder ⊢
    exact ⟨nofun, kept_same inOrder⟩
  · rename_i bootdev chosen same
    rw [same] at inOrder ⊢
    split
    · exact ⟨nofun, kept_same inOrder⟩
    · exact boot_from_attempted steady _ inOrder

theorem int19_posted (ready : Ready env disk) (seqNr : Word) (posted : Posted disk post) :
    Posted disk (int19Function env seqNr post).2 := by
  have chosen := choose_posted env seqNr posted
  have kept := (int19_attempted (ready_steady ready) seqNr posted.idle).kept
  exact ⟨kept.inOrder, chosen.listed.of_same kept.same⟩

section Diskette

def Bootable (env : Environment) (disk : Disk) : Prop :=
  env.platform.cmos 0x38 &&& 0x01 ≠ 0 ∨ disk 510 = 0x55 ∧ disk 511 = 0xaa

instance (env : Environment) (disk : Disk) : Decidable (Bootable env disk) :=
  inferInstanceAs (Decidable (_ ∨ _))

theorem word_of_inj {high low high' low' : Byte} :
    wordOf high low = wordOf high' low' ↔ high = high' ∧ low = low' := by
  constructor
  · intro same
    constructor
    · rw [← high_byte_word_of high low, same, high_byte_word_of]
    · rw [← low_byte_word_of high low, same, low_byte_word_of]
  · rintro ⟨rfl, rfl⟩
    rfl

theorem signed_iff {memory : Memory}
    (sector : ∀ index < 512, memory (0x7c00 + index) = disk index) :
    memory.word 0x07c0 0x1fe = 0xaa55 ↔ disk 510 = 0x55 ∧ disk 511 = 0xaa := by
  have low : memory (physical 0x07c0 0x1fe) = disk 510 := sector 510 (by decide)
  have high : memory (physical 0x07c0 (0x1fe + 1)) = disk 511 := sector 511 (by decide)
  have mark : (0xaa55 : Word) = wordOf 0xaa 0x55 := by decide
  rw [Memory.word, low, high, mark, word_of_inj, and_comm]

theorem boot_diskette (ready : Ready env disk) (post : Post) (idle : Idle disk post.devices.fdc) :
    ∃ devices, Idle disk devices.fdc ∧
      (∀ index < 512, devices.memory (0x7c00 + index) = disk index) ∧
      bootDisk env iplTypeFloppy post =
        if Bootable env disk then (.jumps 0 0x7c00 0, ⟨devices, post.output⟩)
        else (.returns, ⟨devices, post.output ++ printBootFailure 0⟩) := by
  obtain ⟨devices, loaded, kept, sector⟩ := load_floppy ready idle
  refine ⟨devices, kept.inOrder, sector, ?_⟩
  have skips : ((iplTypeFloppy ≠ iplTypeFloppy ∨ env.platform.cmos 0x38 &&& 0x01 = 0) ∧
      devices.memory.word 0x07c0 0x1fe ≠ 0xaa55) ↔ ¬Bootable env disk := by
    rw [Bootable, ne_eq, ne_eq, signed_iff sector]
    tauto
  simp only [bootDisk, loaded, Bool.false_eq_true, if_false, skips]
  by_cases bootable : Bootable env disk
  · rw [if_pos bootable, if_neg (not_not_intro bootable)]
    rfl
  · rw [if_neg bootable, if_pos bootable]
    rfl

theorem floppy_vector {memory : Memory} (listed : Listed memory) :
    ∃ e, getBootVector (1 - 1) memory = some e ∧ e.type = iplTypeFloppy := by
  refine ⟨_, if_neg ?_, listed.floppy⟩
  rw [listed.count]
  decide

theorem choose_output (env : Environment) (seqNr : Word) (post : Post) :
    (chooseDevice env seqNr post).2.output = post.output := by
  rw [chooseDevice]
  split_ifs <;> rfl

/-- The diskette's turn: it gets the processor if its boot sector is signed or
need not be, and else the attempt returns. -/
theorem diskette_turn (ready : Ready env disk) (posted : Posted disk post)
    (turn : (chooseDevice env seqNr post).1 = some 1) :
    ∃ devices, Idle disk devices.fdc ∧
      (∀ index < 512, devices.memory (0x7c00 + index) = disk index) ∧
      int19Function env seqNr post =
        if Bootable env disk then
          (.jumps 0 0x7c00 0, ⟨devices, post.output ++ "Booting from Floppy...\n"⟩)
        else (.returns, ⟨devices, post.output ++ "Booting from Floppy...\n" ++
          "Boot failed: not a bootable disk\n\n"⟩) := by
  have chosen := choose_posted env seqNr posted
  have output := choose_output env seqNr post
  obtain ⟨e, vector, type⟩ := floppy_vector chosen.listed
  have same : chooseDevice env seqNr post = (some 1, (chooseDevice env seqNr post).2) :=
    Prod.ext turn rfl
  have text : printBootDevice iplTypeFloppy = some "Booting from Floppy...\n" := by decide
  have failure : printBootFailure 0 = "Boot failed: not a bootable disk\n\n" := by decide
  obtain ⟨devices, rests, sector, boots⟩ := boot_diskette ready
    ((chooseDevice env seqNr post).2.print "Booting from Floppy...\n") chosen.idle
  refine ⟨devices, rests, sector, ?_⟩
  rw [int19Function, same]
  simp only [vector, bootFrom, type, text, true_or, if_true]
  rw [boots]
  simp only [Post.print, output, failure]

end Diskette

end Attempts

section Stages

open Execution

variable {stage : Stage}

theorem next_cases (env : Environment) (seqNr : Word) (post : Post) :
    let after := (int19Function env seqNr post).2
    (Stage.trying seqNr post).next env = .panicked after ∨
      (∃ bootseg bootip bootdrv,
        (Stage.trying seqNr post).next env = .left bootseg bootip bootdrv after) ∨
      (Stage.trying seqNr post).next env =
        .trying (after.devices.memory.word iplSeg iplSequenceOffset + 1)
          (after.setIpl iplSequenceOffset
            (after.devices.memory.word iplSeg iplSequenceOffset + 1)) ∨
      (int19Function env seqNr post).1 = .hangs ∧
        (Stage.trying seqNr post).next env = .trying seqNr post := by
  simp only [Stage.next]
  cases int19Function env seqNr post with
  | mk attempt after =>
      cases attempt with
      | jumps bootseg bootip bootdrv => exact .inr (.inl ⟨bootseg, bootip, bootdrv, rfl⟩)
      | returns => exact .inr (.inr (.inl rfl))
      | panics => exact .inl rfl
      | hangs => exact .inr (.inr (.inr ⟨rfl, rfl⟩))

theorem run_posted (ready : Ready env disk) (posted : Posted disk stage.post) :
    Forever (Stage.next env) (fun stage => Posted disk stage.post) stage := by
  refine Forever.of_preserved (fun stage posted => ?_) posted
  cases stage with
  | trying seqNr post =>
      have after := int19_posted ready seqNr posted
      rcases next_cases env seqNr post with panics | ⟨bootseg, bootip, bootdrv, jumps⟩ |
        returns | ⟨-, hangs⟩
      · rw [panics]
        exact after
      · rw [jumps]
        exact after
      · rw [returns]
        exact after.set_ipl (.inl rfl) _
      · rw [hangs]
        exact posted
  | left bootseg bootip bootdrv post => exact posted
  | panicked post => exact posted

structure Scheduled (seqNr : Word) (post : Post) : Prop where
  chosen : post.devices.memory.word iplSeg iplBootfirstOffset = 0xffff
  sequence : post.devices.memory.word iplSeg iplSequenceOffset = seqNr

theorem choose_scheduled (env : Environment) (seqNr : Word) (post : Post) :
    Scheduled
      (if post.devices.memory.word iplSeg iplBootfirstOffset = 0xffff then
        post.devices.memory.word iplSeg iplSequenceOffset else 0xffff)
      (chooseDevice env seqNr post).2 := by
  by_cases chosen : post.devices.memory.word iplSeg iplBootfirstOffset = 0xffff
  · simp only [chooseDevice, chosen, ne_eq, not_true_eq_false, if_false, if_true]
    exact ⟨chosen, rfl⟩
  · simp only [chooseDevice, chosen, ne_eq, not_false_eq_true, if_false, if_true]
    refine ⟨?_, Memory.word_set_word ..⟩
    exact (Memory.word_set_word_apart _ (by decide) (by decide) (by decide)).trans
      (Memory.word_set_word ..)

theorem Scheduled.of_same {chosen after : Post} (scheduled : Scheduled seqNr chosen)
    (same : SameTable chosen.devices.memory after.devices.memory) : Scheduled seqNr after :=
  ⟨(same.word (by decide)).trans scheduled.chosen, (same.word (by decide)).trans scheduled.sequence⟩

variable {order : Controller → Prop}

theorem next_scheduled (steady : Steady env order) (inOrder : order post.devices.fdc) {place : Word}
    (scheduled : Scheduled place (chooseDevice env seqNr post).2) :
    ((Stage.trying seqNr post).next env).Over ∨
      ∃ post', (Stage.trying seqNr post).next env = .trying (place + 1) post' ∧
        order post'.devices.fdc ∧ Scheduled (place + 1) post' := by
  have attempted := int19_attempted steady seqNr inOrder
  have after := scheduled.of_same attempted.kept.same
  rcases next_cases env seqNr post with panics | ⟨bootseg, bootip, bootdrv, jumps⟩ | returns |
    ⟨hangs, -⟩
  · rw [panics]
    exact .inl trivial
  · rw [jumps]
    exact .inl trivial
  · rw [after.sequence] at returns
    refine .inr ⟨_, returns, attempted.kept.inOrder, ?_, ?_⟩
    · exact (Memory.word_set_word_apart _ (by decide) (by decide) (by decide)).trans after.chosen
    · exact Memory.word_set_word ..
  · exact absurd hangs attempted.comes

theorem boot_device_end (cmos : Nat → Byte) : bootDevice cmos 3 = 0 := by
  have low : (wordOf 0 (cmos 0x3d)).toNat < 2 ^ 12 := by
    have bound := (cmos 0x3d).isLt
    rw [word_of_to_nat]
    exact (Nat.add_lt_add_left bound _).trans_le (by decide)
  have high : (wordOf 0 (cmos 0x38 &&& 0xf0) <<< 4).toNat < 2 ^ 12 := by
    have bound := (cmos 0x38 &&& 0xf0).isLt
    have zero : (0 : Byte).toNat = 0 := rfl
    rw [BitVec.toNat_shiftLeft, Nat.shiftLeft_eq, word_of_to_nat, zero]
    omega
  have places : (wordOf 0 (cmos 0x3d) ||| wordOf 0 (cmos 0x38 &&& 0xf0) <<< 4) >>> 12 = 0 := by
    apply BitVec.eq_of_toNat_eq
    rw [BitVec.toNat_ushiftRight, BitVec.toNat_or, Nat.shiftRight_eq_div_pow]
    exact Nat.div_eq_of_lt (Nat.or_lt_two_pow low high)
  have shift : 4 * (3 : Word).toNat = 12 := rfl
  rw [bootDevice, shift, places]
  decide

/-- Behind the last place the BIOS panics. -/
theorem last_over (posted : Scheduled 3 post) : ((Stage.trying 3 post).next env).Over := by
  have panics : int19Function env 3 post =
      (.panics, post.print (fatal "No bootable device.\n")) := by
    simp only [int19Function, chooseDevice, posted.chosen, ne_eq, not_true_eq_false, if_false,
      boot_device_end, if_true]
  rw [Stage.next, panics]
  trivial

theorem scheduled_ends (steady : Steady env order) (turns : Nat) :
    ∀ {seqNr : Word} {post : Post}, seqNr.toNat + turns = 3 → order post.devices.fdc →
      Scheduled seqNr post →
        ∃ count ≤ turns + 1, ((Stage.next env)^[count] (.trying seqNr post)).Over := by
  induction turns with
  | zero =>
      intro seqNr post place _ scheduled
      obtain rfl : seqNr = 3 := BitVec.eq_of_toNat_eq place
      exact ⟨1, le_refl 1, last_over scheduled⟩
  | succ turns ih =>
      intro seqNr post place inOrder scheduled
      have noted := choose_scheduled env seqNr post
      rw [scheduled.chosen, if_pos rfl, scheduled.sequence] at noted
      rcases next_scheduled steady inOrder noted with ended | ⟨post', next, inOrder', scheduled'⟩
      · exact ⟨1, by omega, ended⟩
      · have later : (seqNr + 1).toNat + turns = 3 := by bv_omega
        obtain ⟨count, within, ends⟩ := ih later inOrder' scheduled'
        refine ⟨count + 1, by omega, ?_⟩
        rwa [Function.iterate_succ_apply, next]

/-- A bootstrap ends: within five attempts the processor is handed to some
device, or the BIOS panics. -/
theorem bootstrap_ends (quiet : Quiet env AtRest) (rests : AtRest post.devices.fdc) :
    ∃ count ≤ 5, ((Stage.next env)^[count] (int19 post)).Over := by
  have steady := rest_steady quiet
  have begun : AtRest (post.setIpl iplSequenceOffset 0).devices.fdc := rests
  by_cases chosen : post.devices.memory.word iplSeg iplBootfirstOffset = 0xffff
  · have scheduled : Scheduled 0 (post.setIpl iplSequenceOffset 0) :=
      ⟨(Memory.word_set_word_apart _ (by decide) (by decide) (by decide)).trans chosen,
        Memory.word_set_word ..⟩
    obtain ⟨count, within, ends⟩ := scheduled_ends steady 3 rfl begun scheduled
    exact ⟨count, by omega, ends⟩
  · have noted := choose_scheduled env 0 (post.setIpl iplSequenceOffset 0)
    have still : (post.setIpl iplSequenceOffset 0).devices.memory.word iplSeg
        iplBootfirstOffset ≠ 0xffff := by
      rwa [Post.setIpl, Memory.word_set_word_apart _ (by decide) (by decide) (by decide)]
    rw [if_neg still] at noted
    rcases next_scheduled steady begun noted with ended | ⟨post', next, inOrder, scheduled⟩
    · exact ⟨1, by decide, ended⟩
    · have wraps : (0xffff : Word) + 1 = 0 := by decide
      rw [wraps] at next scheduled
      obtain ⟨count, within, ends⟩ := scheduled_ends steady 3 rfl inOrder scheduled
      refine ⟨count + 1, by omega, ?_⟩
      rwa [int19, Function.iterate_succ_apply, next]

section Safety

theorem vector_listed {memory : Memory} {i : Word} {e : IplEntry} (listed : Listed memory)
    (vector : getBootVector i memory = some e) :
    e.type = iplTypeFloppy ∨ e.type = iplTypeHarddisk ∨ e.type = iplTypeCdrom := by
  rw [getBootVector, listed.count] at vector
  split_ifs at vector with beyond
  obtain rfl := Option.some.inj vector
  have three : i = 0 ∨ i = 1 ∨ i = 2 := by bv_omega
  rcases three with rfl | rfl | rfl
  · exact .inl listed.floppy
  · exact .inr (.inl listed.hardDisk)
  · exact .inr (.inr listed.cdrom)

structure Loaded (env : Environment) (disk : Disk) (post : Post) : Prop where
  bootable : Bootable env disk
  sector : ∀ index < 512, post.devices.memory (0x7c00 + index) = disk index

theorem hard_disk_drive {bootseg bootip : Word} {bootdrv : Byte} {after : Post}
    (jumps : bootDisk env iplTypeHarddisk post = (.jumps bootseg bootip bootdrv, after)) :
    bootdrv = 0x80 := by
  have attempt := congrArg Prod.fst jumps
  simp only [bootDisk] at attempt
  split at attempt
  · exact absurd attempt nofun
  · split_ifs at attempt
    · injection attempt with _ _ drive
      exact drive.symm

theorem cdrom_offset {bootseg bootip : Word} {bootdrv : Byte} {after : Post}
    (jumps : bootCdrom env post = (.jumps bootseg bootip bootdrv, after)) : bootip = 0 := by
  have attempt := congrArg Prod.fst jumps
  simp only [bootCdrom] at attempt
  split_ifs at attempt
  injection attempt with _ offset _
  exact offset.symm

/-- Only the diskette is entered at 7C00h as drive 0. -/
theorem jump_loaded (ready : Ready env disk) (posted : Posted disk post) {bootseg : Word}
    {after : Post} (jumps : int19Function env seqNr post = (.jumps bootseg 0x7c00 0, after)) :
    Loaded env disk after := by
  have chosen := choose_posted env seqNr posted
  unfold int19Function at jumps
  split at jumps
  · exact absurd (congrArg Prod.fst jumps) nofun
  · rename_i bootdev next same
    rw [same] at chosen
    split at jumps
    · exact absurd (congrArg Prod.fst jumps) nofun
    · rename_i e vector
      unfold bootFrom at jumps
      split at jumps
      · exact absurd (congrArg Prod.fst jumps) nofun
      · rename_i text _
        rcases vector_listed chosen.listed vector with floppy | hardDisk | cdrom
        · obtain ⟨devices, -, sector, boots⟩ :=
            boot_diskette ready (next.print text) chosen.idle
          simp only [floppy, true_or, if_true, boots] at jumps
          split_ifs at jumps with bootable
          · obtain rfl := congrArg Prod.snd jumps
            exact ⟨bootable, sector⟩
          · exact absurd (congrArg Prod.fst jumps) nofun
        · simp only [hardDisk, or_true, if_true] at jumps
          exact absurd (hard_disk_drive jumps) (by decide)
        · simp only [cdrom] at jumps
          rw [if_neg (by decide), if_pos trivial] at jumps
          exact absurd (cdrom_offset jumps) (by decide)

/-- Until a device is entered all is in order, and the diskette is entered with
its boot sector in place. -/
def Stage.Sound (env : Environment) (disk : Disk) : Stage → Prop
  | .trying _ post => Posted disk post
  | .left _ bootip bootdrv post => bootip = 0x7c00 → bootdrv = 0 → Loaded env disk post
  | .panicked _ => True

theorem next_sound (ready : Ready env disk) (sound : stage.Sound env disk) :
    (stage.next env).Sound env disk := by
  cases stage with
  | trying seqNr post =>
      have posted : Posted disk post := sound
      have after := int19_posted ready seqNr posted
      cases result : int19Function env seqNr post with
      | mk attempt next =>
          rw [result] at after
          rw [Stage.next, result]
          cases attempt with
          | jumps bootseg bootip bootdrv =>
              rintro rfl rfl
              exact jump_loaded ready posted result
          | returns => exact after.set_ipl (.inl rfl) _
          | panics => trivial
          | hangs => exact posted
  | left bootseg bootip bootdrv post => exact sound
  | panicked post => trivial

/-- No bootstrap enters a diskette at 7C00h, but with its boot sector there,
and signed unless the CMOS says that it need not be. -/
theorem diskette_entered_loaded (ready : Ready env disk) (posted : Posted disk post) (count : Nat)
    (bootseg : Word) (after : Post)
    (left : (Stage.next env)^[count] (int19 post) = .left bootseg 0x7c00 0 after) :
    Loaded env disk after := by
  have begun : (int19 post).Sound env disk := posted.set_ipl (.inl rfl) 0
  have sound : Forever (Stage.next env) (Stage.Sound env disk) (int19 post) :=
    Forever.of_preserved (fun _ sound => next_sound ready sound) begun
  have there := sound count
  rw [left] at there
  exact there rfl rfl

end Safety

section Diskette

variable {turns : Nat}

/-- Whenever in a bootstrap the diskette's turn comes, its boot sector gets the
processor if it is signed or need not be, and the next device has its turn if
not. -/
theorem turn_of_diskette (ready : Ready env disk) (posted : Posted disk post)
    (tried : (Stage.next env)^[turns] (int19 post) = .trying seqNr post')
    (turn : (chooseDevice env seqNr post').1 = some 1) :
    ∃ after, Idle disk after.devices.fdc ∧
      if Bootable env disk then
        (Stage.next env)^[turns + 1] (int19 post) = .left 0 0x7c00 0 after ∧
          (∀ index < 512, after.devices.memory (0x7c00 + index) = disk index) ∧
          after.output = post'.output ++ "Booting from Floppy...\n"
      else
        (∃ seqNr', (Stage.next env)^[turns + 1] (int19 post) = .trying seqNr' after) ∧
          after.output = post'.output ++ "Booting from Floppy...\n" ++
            "Boot failed: not a bootable disk\n\n" := by
  have begun : Posted disk (int19 post).post := posted.set_ipl (.inl rfl) 0
  have now : Posted disk post' := by
    have stays := run_posted ready begun turns
    rwa [tried] at stays
  obtain ⟨devices, rests, sector, result⟩ := diskette_turn ready now turn
  rw [Function.iterate_succ_apply', tried, Stage.next, result]
  by_cases bootable : Bootable env disk
  · simp only [if_pos bootable]
    exact ⟨_, rests, rfl, sector, rfl⟩
  · simp only [if_neg bootable]
    exact ⟨_, rests, ⟨_, rfl⟩, rfl⟩

theorem image_bootable (env : Environment) (image : ∀ index < 512, disk index = imageByte index) :
    Bootable env disk := by
  have signed : imageByte 510 = 0x55 ∧ imageByte 511 = 0xaa := by decide +kernel
  exact .inr ⟨(image 510 (by decide)).trans signed.1, (image 511 (by decide)).trans signed.2⟩

theorem hand_over_entry (env : Environment) {after : Post}
    (image : ∀ index < 512, disk index = imageByte index)
    (sector : ∀ index < 512, after.devices.memory (0x7c00 + index) = disk index) :
    Start.Entry (handOver env 0 0x7c00 0 after) where
  fault := rfl
  cs := rfl
  ip := rfl
  log := rfl
  loaded := fun index bound => by
    rw [← image index bound, ← sector index bound]
    exact if_neg (by omega)

def Post.drive (post : Post) : Drive := ⟨post.devices.fdc, post.devices.channel⟩

variable (ready : Ready env disk) (posted : Posted disk post)
  (tried : (Stage.next env)^[turns] (int19 post) = .trying seqNr post')
  (turn : (chooseDevice env seqNr post').1 = some 1)
  (image : ∀ index < 512, disk index = imageByte index)

include ready posted tried turn image

theorem image_entered : ∃ after,
    (Stage.next env)^[turns + 1] (int19 post) = .left 0 0x7c00 0 after ∧
      Idle disk after.drive.fdc ∧ Start.Entry (handOver env 0 0x7c00 0 after) := by
  obtain ⟨after, rests, result⟩ := turn_of_diskette ready posted tried turn
  rw [if_pos (image_bootable env image)] at result
  obtain ⟨left, sector, -⟩ := result
  exact ⟨after, left, rests, hand_over_entry env image sector⟩

/-- From the bootstrap of the BIOS on, the boot ends as the root directory and
FAT1 say. -/
theorem bootstrap_outcome_iff :
    ∃ after, (Stage.next env)^[turns + 1] (int19 post) = .left 0 0x7c00 0 after ∧
      ∀ outcome, Realised (trace fetchingBoot env.platform (handOver env 0 0x7c00 0 after)
        after.drive) disk outcome ↔ Outcomes.bootOutcome disk = outcome := by
  obtain ⟨after, left, rests, entered⟩ := image_entered ready posted tried turn image
  exact ⟨after, left, fun _ => realised_iff ready.fitted entered rests⟩

open LoadFile LoadSegment SecondStage PowerOn Display FileLoading in
/-- From the bootstrap of the BIOS to the loader's message. -/
theorem bootstrap_to_message {file length last : Nat} (found : FirstLoader disk file)
    (chain : FileChain disk file length) (final : lastTurn length 0 = some last)
    (stored : LoaderAt disk (fileCluster disk file last + 31)) :
    ∃ after, (Stage.next env)^[turns + 1] (int19 post) = .left 0 0x7c00 0 after ∧
      let run := trace fetching env.platform (handOver env 0 0x7c00 0 after) after.drive
      ∃ count, Finished run count ∧
        ∀ later, displayed run (count + later) = greeting ++ dots length ++ loaderText := by
  obtain ⟨after, left, rests, entered⟩ := image_entered ready posted tried turn image
  exact ⟨after, left, trace_boots ready.fitted entered rests found chain final stored⟩

end Diskette

end Stages

section Instance

def plainEnvironment : Environment where
  platform := plainPlatform
  registers := (Start.powerOn fun _ => 0).machine
  hardDisk devices := (true, devices)
  cdromBoot devices := (0x0002, 0, devices)

theorem plain_quiet (order : Controller → Prop) : Quiet plainEnvironment order :=
  ⟨fun _ inOrder => kept_same inOrder, fun _ inOrder => kept_same inOrder⟩

theorem plain_ready (disk : Disk) : Ready plainEnvironment disk :=
  ⟨plain_fitted, plain_quiet _⟩

def plainPost (disk : Disk) : Post :=
  ⟨(idleDrive disk).devices (initBootVectors fun _ => 0), ""⟩

theorem plain_posted (disk : Disk) : Posted disk (plainPost disk) :=
  ⟨⟨false, idle_controller_holding disk⟩, init_boot_vectors_listed _⟩

theorem plain_turn {post : Post} (table : post.devices.memory = initBootVectors fun _ => 0) :
    (chooseDevice plainEnvironment 0 (post.setIpl iplSequenceOffset 0)).1 = some 1 := by
  have chosen : (post.setIpl iplSequenceOffset 0).devices.memory.word iplSeg
      iplBootfirstOffset = 0xffff := by
    rw [Post.setIpl, Memory.word_set_word_apart _ (by decide) (by decide) (by decide), table,
      initBootVectors]
    iterate 5 rw [Memory.word_set_word_apart _ (by decide) (by decide) (by decide)]
    rw [Memory.word_set_word]
  have first : bootDevice plainPlatform.cmos 0 = 1 := by decide
  simp only [chooseDevice, chosen, plainEnvironment, first, ne_eq, not_true_eq_false, if_false]
  rfl

theorem plain_tried (disk : Disk) : (Stage.next plainEnvironment)^[0] (int19 (plainPost disk)) =
    .trying 0 ((plainPost disk).setIpl iplSequenceOffset 0) := rfl

theorem boot_img_bootstraps : ∃ count ≤ 5,
    ((Stage.next plainEnvironment)^[count] (int19 (plainPost PowerOn.bootImg))).Over :=
  bootstrap_ends (plain_quiet _) (idle_controller_holding PowerOn.bootImg).rests

theorem boot_img_entered_loaded : ∃ after,
    (Stage.next plainEnvironment)^[0 + 1] (int19 (plainPost PowerOn.bootImg)) =
      .left 0 0x7c00 0 after ∧ Loaded plainEnvironment PowerOn.bootImg after := by
  obtain ⟨after, left, -, -⟩ := image_entered (plain_ready _) (plain_posted _) (plain_tried _)
    (plain_turn rfl) fun _ bound => if_pos bound
  exact ⟨after, left, diskette_entered_loaded (plain_ready _) (plain_posted _) _ _ after left⟩

theorem boot_img_from_bootstrap : ∃ after,
    (Stage.next plainEnvironment)^[0 + 1] (int19 (plainPost PowerOn.bootImg)) =
      .left 0 0x7c00 0 after ∧
    let run := trace fetching plainEnvironment.platform
      (handOver plainEnvironment 0 0x7c00 0 after) after.drive
    ∃ count, Finished run count ∧ ∀ later, displayed run (count + later) =
      Display.greeting ++ Display.dots 1 ++ SecondStage.loaderText :=
  bootstrap_to_message (plain_ready _) (plain_posted _) (plain_tried _) (plain_turn rfl)
    (fun _ bound => if_pos bound) PowerOn.boot_img_first_loader PowerOn.boot_img_chain rfl
    PowerOn.boot_img_loader

theorem boot_img_outcome : ∃ after,
    (Stage.next plainEnvironment)^[0 + 1] (int19 (plainPost PowerOn.bootImg)) =
      .left 0 0x7c00 0 after ∧
    ∀ outcome, Realised (trace fetchingBoot plainEnvironment.platform
      (handOver plainEnvironment 0 0x7c00 0 after) after.drive) PowerOn.bootImg outcome ↔
        Outcomes.bootOutcome PowerOn.bootImg = outcome :=
  bootstrap_outcome_iff (plain_ready _) (plain_posted _) (plain_tried _) (plain_turn rfl)
    fun _ bound => if_pos bound

end Instance

end BootSector.Bootstrap
