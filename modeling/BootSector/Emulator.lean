import BootSector.Composite
import BootSector.Diskette
import BootSector.PowerOn

/-!
# The boot on the emulator

The machine of the repository: the diskette service of its BIOS over its floppy
controller, with the image in drive 0. What has been assumed of a BIOS holds of
it wherever the boot sector calls it, so that every run on it is a run on a
BIOS that conforms.
-/

namespace BootSector.Emulator

open RealMode Bios Program Floppy Execution Assertion FloppyController Diskette EndMarks Screen
  Composite

variable {disk : Disk} {entry config : Config} {machine : Machine} {log : Log}

section Services

/-- What is left open: the registers of the CMOS, the video service, the calls
that are not modelled, and what a handler leaves below the stack pointer. -/
structure Platform where
  cmos : Nat → Byte
  stack : Log → Memory
  video : Log → Machine → Machine
  other : Log → Machine → Machine

structure Fitted (platform : Platform) : Prop where
  cmos : platform.cmos 0x10 >>> 4 = 4
  video : ∀ log machine, Keeps machine (platform.video log machine)

structure Drive where
  fdc : Controller
  channel : Channel

def Drive.devices (drive : Drive) (memory : Memory) : Devices := ⟨drive.fdc, drive.channel, memory⟩

/-- The registers come back from the stack, with `AX` and the carry of the
reply. -/
def iret (stack : Memory) (machine : Machine) (reply : Reply) : Machine :=
  { machine with
    ax := reply.ax
    carry := reply.carry
    memory := fun address =>
      if 0x500 ≤ address ∧ address < physical machine.ss machine.sp then stack address
      else reply.devices.memory address }

/-- `int13_relocated`, for diskettes. -/
def int13 (platform : Platform) (drive : Drive) (log : Log) (machine : Machine) :
    Machine × Drive :=
  if (lowByte machine.dx).getLsbD 7 then (platform.other log machine, drive)
  else
    match int13DisketteFunction (platform.cmos 0x10) machine (drive.devices machine.memory) with
    | some reply =>
        (iret (platform.stack log) machine reply, ⟨reply.devices.fdc, reply.devices.channel⟩)
    -- a function that is not modelled, or the BIOS has panicked
    | none => (platform.other log machine, drive)

def emulated (platform : Platform) (drives : Log → Drive) : Services where
  video := platform.video
  disk log machine := (int13 platform (drives log) log machine).1

/-- How the boot sector calls `INT 13h`. -/
structure Proper (machine : Machine) : Prop where
  drive : lowByte machine.dx = 0
  function : highByte machine.ax = 0 ∨ highByte machine.ax = 2
  stack : 0x500 ≤ physical machine.ss machine.sp
  buffer : highByte machine.ax = 2 → physical machine.ss machine.sp ≤ machine.request.start ∧
    machine.request.start + machine.request.size ≤ 0xa0000

theorem proper_iff (machine : Machine) : Proper machine ↔
    lowByte machine.dx = 0 ∧ (highByte machine.ax = 0 ∨ highByte machine.ax = 2) ∧
      0x500 ≤ physical machine.ss machine.sp ∧
      (highByte machine.ax = 2 → physical machine.ss machine.sp ≤ machine.request.start ∧
        machine.request.start + machine.request.size ≤ 0xa0000) :=
  ⟨fun ⟨drive, function, stack, buffer⟩ => ⟨drive, function, stack, buffer⟩,
    fun ⟨drive, function, stack, buffer⟩ => ⟨drive, function, stack, buffer⟩⟩

instance (machine : Machine) : Decidable (Proper machine) :=
  decidable_of_iff _ (proper_iff machine).symm

/-- The emulator where it is called properly, an ideal BIOS elsewhere. -/
def guarded (platform : Platform) (drives : Log → Drive) (disk : Disk) : Services where
  video := platform.video
  disk log machine :=
    if Proper machine then (int13 platform (drives log) log machine).1
    else (floppyBios disk fun _ => 0).disk log machine

end Services

section Contract

variable {platform : Platform} {drive : Drive}

theorem is_read_iff (machine : Machine) : machine.isRead ↔ highByte machine.ax = 2 :=
  beq_iff_eq

def returned (platform : Platform) (log : Log) (machine : Machine) (reply : Reply) :
    Machine × Drive :=
  (iret (platform.stack log) machine reply, ⟨reply.devices.fdc, reply.devices.channel⟩)

theorem int13_read (fitted : Fitted platform) (idle : Idle disk drive.fdc)
    (reads : highByte machine.ax = 2) (first : lowByte machine.dx = 0) :
    ∃ reply writeProtected, int13 platform drive log machine = returned platform log machine reply ∧
      Answered writeProtected disk machine (drive.devices machine.memory) reply := by
  obtain ⟨writeProtected, holding⟩ := idle
  have same : Holding writeProtected disk (drive.devices machine.memory).fdc := holding
  obtain ⟨reply, result, answered⟩ := read_answered fitted.cmos same reads first
  refine ⟨reply, writeProtected, ?_, answered⟩
  simp only [int13, first, transfer_function (.inl reads), result]
  rfl

theorem int13_reset (resets : highByte machine.ax = 0) (first : lowByte machine.dx = 0) :
    int13 platform drive log machine = returned platform log machine
      (resetDrive (platform.cmos 0x10) machine (drive.devices machine.memory)) := by
  have zero : (0 : Byte).toNat = 0 := rfl
  simp only [int13, int13DisketteFunction, first, resets, zero]
  rfl

/-- What the program owns lies above the data area and the handler's stack. -/
theorem iret_owned {reply : Reply} {stack : Memory} {address start size : Nat}
    (high : 0x500 ≤ physical machine.ss machine.sp) (owned : Owned machine address)
    (keeps : Keeping start size machine.memory reply.devices.memory)
    (out : ¬(start ≤ address ∧ address < start + size)) :
    (iret stack machine reply).memory address = machine.memory address := by
  have above : ¬(0x500 ≤ address ∧ address < physical machine.ss machine.sp) :=
    fun below => absurd owned.1 (Nat.not_le_of_lt below.2)
  simp only [iret, if_neg above]
  exact keeps address (.inr (high.trans owned.1)) out

theorem reset_keeping (cmos : Byte) (drive : lowByte machine.dx = 0) (devices : Devices) :
    Keeping 0 0 devices.memory (resetDrive cmos machine devices).devices.memory := by
  simp only [resetDrive, drive]
  split_ifs
  · exact write_byte_keeping (by decide) _ _
  · exact write_byte_keeping (by decide) _ _
  · exact (write_byte_keeping (by decide) _ _).trans (write_byte_keeping (by decide) _ _)

theorem int13_idle (fitted : Fitted platform) (idle : Idle disk drive.fdc)
    (proper : Proper machine) : Idle disk (int13 platform drive log machine).2.fdc := by
  rcases proper.function with resets | reads
  · obtain ⟨writeProtected, holding⟩ := idle
    rw [int13_reset resets proper.drive]
    exact ⟨writeProtected, reset_holding _ machine holding⟩
  · obtain ⟨reply, writeProtected, same, answered⟩ := int13_read fitted idle reads proper.drive
    rw [same]
    exact ⟨writeProtected, answered.holding⟩

variable {drives : Log → Drive}

theorem guarded_honours (fitted : Fitted platform) (idle : ∀ log, Idle disk (drives log).fdc) :
    Honours (guarded platform drives disk) disk := by
  have ideal := floppy_bios_honours disk fun _ => 0
  constructor
  · exact fitted.video
  · intro log machine other
    simp only [guarded]
    split_ifs with proper
    · have resets : highByte machine.ax = 0 := proper.function.resolve_right
        fun reads => absurd ((is_read_iff machine).mpr reads) (by rw [other]; decide)
      rw [int13_reset resets proper.drive]
      exact ⟨rfl, rfl, rfl, rfl, fun address owned => iret_owned proper.stack owned
        (reset_keeping _ proper.drive _) (by omega)⟩
    · exact ideal.other log machine other
  · intro log machine reads
    simp only [guarded]
    split_ifs with proper
    · obtain ⟨reply, tab, same, answered⟩ :=
        int13_read fitted (idle log) ((is_read_iff machine).mp reads) proper.drive
      rw [same]
      exact ⟨rfl, rfl, rfl, rfl, rfl, rfl, rfl, rfl, rfl, rfl, fun address owned uncovered =>
        iret_owned proper.stack owned answered.keeping uncovered⟩
    · exact ideal.read log machine reads
  · intro log machine reads formed success index bound
    simp only [guarded] at success ⊢
    split_ifs at success ⊢ with proper
    · have function := (is_read_iff machine).mp reads
      obtain ⟨start, upper⟩ := proper.buffer function
      have above : ¬(0x500 ≤ machine.request.start + index ∧
          machine.request.start + index < physical machine.ss machine.sp) := by omega
      obtain ⟨reply, tab, same, answered⟩ := int13_read fitted (idle log) function proper.drive
      rw [same] at success ⊢
      simp only [returned, iret, if_neg above]
      exact answered.data (answered.succeeds.mp success) formed
        ⟨proper.stack.trans start, upper⟩ index bound
    · exact ideal.data log machine reads formed success index bound

theorem guarded_conforms (fitted : Fitted platform) (idle : ∀ log, Idle disk (drives log).fdc) :
    Conforms (guarded platform drives disk) disk := by
  refine ⟨guarded_honours fitted idle, ?_, ?_⟩
  · intro log machine reads present
    simp only [guarded]
    split_ifs with proper
    · obtain ⟨reply, tab, same, answered⟩ :=
        int13_read fitted (idle log) ((is_read_iff machine).mp reads) proper.drive
      rw [same]
      exact answered.succeeded present
    · exact floppy_bios_succeeds disk log machine reads present
  · intro log machine reads beyond
    simp only [guarded]
    split_ifs with proper
    · obtain ⟨reply, tab, same, answered⟩ :=
        int13_read fitted (idle log) ((is_read_iff machine).mp reads) proper.drive
      rw [same]
      exact answered.refused beyond
    · exact floppy_bios_refuses disk _ log machine reads beyond

end Contract

section Runs

variable {platform : Platform}

def stackNoted (note : Facts.Note) : Bool :=
  match code 0 note.ip with
  | some (.int13, _) =>
      Facts.seg? note.facts .ss == some 0 &&
        (Facts.reg16? note.facts .sp).any fun sp => decide (0x500 ≤ sp.toNat ∧ sp.toNat ≤ 0x7c00)
  | _ => true

theorem stacks_noted : Flow.notes.all stackNoted = true := by decide +kernel

structure OnStack (machine : Machine) : Prop where
  segment : machine.ss = 0#16
  lower : 0x500 ≤ machine.sp.toNat
  upper : machine.sp.toNat ≤ 0x7c00

theorem noted_stack {frames : List Facts.Frame} {next : Word}
    (noted : Facts.Noted Flow.notes ⟨config, frames⟩)
    (fetched : code config.machine.cs config.machine.ip = some (.int13, next)) :
    OnStack config.machine := by
  obtain ⟨note, listed, ip, hold, -⟩ := noted
  have stack := List.all_eq_true.mp stacks_noted note listed
  have line : code 0 note.ip = some (.int13, next) := ip ▸ code_in_segment fetched
  simp only [stackNoted, line, Bool.and_eq_true, beq_iff_eq, Option.any_eq_true,
    decide_eq_true_eq] at stack
  obtain ⟨ss, sp, known, lower, upper⟩ := stack
  have there : sp = config.machine.sp := Facts.reg16_known hold .sp sp known
  exact ⟨(Facts.seg_known hold .ss 0 ss).symm, there ▸ lower, there ▸ upper⟩

theorem proper_at {bios : Services} (honours : Honours bios disk) (entered : Start.Entry entry)
    (count : Nat) {next : Word} (running : ((step code bios)^[count] entry).fault = false)
    (fetched : code ((step code bios)^[count] entry).machine.cs
      ((step code bios)^[count] entry).machine.ip = some (.int13, next)) :
    Proper ((step code bios)^[count] entry).machine := by
  have safe : Forever (step code bios)
      (Safe 0x7bf0 ⟨RunSafety.RequestSound, fun _ => True⟩) entry :=
    Refinement.run_safe honours entered (fun position => Refinement.permits_reads
      (fun _ listed => RunSafety.reads_sound (Loader.phase_at_valid disk position) listed))
  obtain ⟨noted, serviced⟩ := run_serviced honours entered count
  have same := Facts.observe_iterate code bios ⟨entry, []⟩ count
  have calls : Serviced ((step code bios)^[count] entry) := by rwa [same] at serviced
  obtain ⟨drive, function⟩ := calls.drive next fetched
  have asks := ((safe count running).2 _ _ fetched).2.2.1
  have stack : OnStack ((step code bios)^[count] entry).machine := by
    rw [← same] at fetched ⊢
    exact noted_stack noted fetched
  have lower := stack.lower
  have upper := stack.upper
  refine ⟨drive, function, ?_, fun reads => ?_⟩
  · rwa [stack.segment, physical_zero]
  · have asked := (is_read_iff _).mpr reads
    have buffer := (asks ((step code bios)^[count] entry).machine.request
      (by simp [Machine.asks, asked])).1.buffer
    have size : ((step code bios)^[count] entry).machine.request.size =
        512 * ((step code bios)^[count] entry).machine.request.count := rfl
    rw [stack.segment, physical_zero]
    omega

theorem step_agrees {listing : Code} {bios bios' : Services}
    (video : bios'.video config.log config.machine = bios.video config.log config.machine)
    (drive : ∀ next, config.fault = false →
      listing config.machine.cs config.machine.ip = some (.int13, next) →
        bios'.disk config.log config.machine = bios.disk config.log config.machine) :
    step listing bios' config = step listing bios config := by
  cases fault : config.fault with
  | true => rw [step_faulted fault, step_faulted fault]
  | false =>
      cases fetched : listing config.machine.cs config.machine.ip with
      | none => rw [step_outside fetched, step_outside fetched]
      | some line =>
          obtain ⟨instr, next⟩ := line
          simp only [step, fault, fetched, perform]
          cases instr with
          | int10 => rw [video]
          | int13 => rw [drive next fault fetched]
          | _ => rfl

variable {drives : Log → Drive}

/-- A run on the emulator is a run on a BIOS that conforms. -/
theorem runs_agree (fitted : Fitted platform) (idle : ∀ log, Idle disk (drives log).fdc)
    (entered : Start.Entry entry) (count : Nat) :
    (step code (emulated platform drives))^[count] entry =
      (step code (guarded platform drives disk))^[count] entry := by
  induction count with
  | zero => rfl
  | succ count ih =>
      rw [Function.iterate_succ_apply', Function.iterate_succ_apply', ih]
      refine step_agrees ?_ ?_
      · rfl
      intro next running fetched
      have proper := proper_at (guarded_honours fitted idle) entered count running fetched
      exact (if_pos proper).symm

theorem realises_of_agree {bios bios' : Services} {outcome : Outcomes.Outcome}
    (same : ∀ count, (step code bios')^[count] entry = (step code bios)^[count] entry)
    (realised : Outcomes.Realises bios disk entry outcome) :
    Outcomes.Realises bios' disk entry outcome := by
  have resting : ∀ final, Outcomes.RestsIn bios entry final →
      Outcomes.RestsIn bios' entry final := by
    rintro final ⟨count, fixed, there⟩
    have next := same (count + 1)
    rw [Function.iterate_succ_apply', Function.iterate_succ_apply', fixed] at next
    exact ⟨count, next.trans (same count).symm, (same count).symm ▸ there⟩
  cases outcome with
  | stalled position =>
      obtain ⟨file, count, found, beyond, log, only, endless⟩ := realised
      refine ⟨file, count, found, beyond, ?_, ?_, ?_⟩
      · rwa [same]
      · intro later
        rw [same, same]
        exact only later
      · intro attempts
        obtain ⟨later, grown⟩ := endless attempts
        exact ⟨later, by rwa [same, same]⟩
  | looping =>
      obtain ⟨file, found, turns⟩ := realised
      refine ⟨file, found, fun more => ?_⟩
      obtain ⟨count, ax, dx, log⟩ := turns more
      exact ⟨count, ax, dx, by rwa [same]⟩
  | missing => exact resting _ realised
  | divideError => exact resting _ realised
  | loaded length => exact resting _ realised

end Runs

section Systems

variable {platform : Platform} {drive : Drive} {listing : Config → Code}
  {outcome : Outcomes.Outcome}

def consultsDrive (listing : Config → Code) (config : Config) : Bool :=
  !config.fault && (listing config config.machine.cs config.machine.ip).any fun line =>
    line.1 == .int13

/-- The processor consults the drive, whose state changes with every call. -/
def rules (listing : Config → Code) (platform : Platform) : Rules Config Drive where
  next drive config := step (listing config) (emulated platform fun _ => drive) config
  consults := consultsDrive listing
  update config drive := (int13 platform drive config.log config.machine).2

def trace (listing : Config → Code) (platform : Platform) (entry : Config) (drive : Drive)
    (count : Nat) : Config :=
  ((rules listing platform).step^[count] ⟨entry, drive⟩).state

theorem consults_iff (listing : Config → Code) (config : Config) :
    consultsDrive listing config = true ↔ config.fault = false ∧
      ∃ next, listing config config.machine.cs config.machine.ip = some (.int13, next) := by
  simp [consultsDrive, Option.any_eq_true]

def advance (listing : Config → Code) (platform : Platform) (drives : Log → Drive)
    (config : Config) : Config :=
  step (listing config) (emulated platform drives) config

def CallsProperly (listing : Config → Code) (platform : Platform) (drives : Log → Drive)
    (entry : Config) : Prop :=
  ∀ count next, let config := (advance listing platform drives)^[count] entry
    config.fault = false →
      listing config config.machine.cs config.machine.ip = some (.int13, next) →
        Proper config.machine

theorem alone_advance (drives : Log → Drive) :
    (rules listing platform).alone Config.log drives = advance listing platform drives :=
  funext fun _ => step_agrees rfl fun _ _ _ => rfl

theorem recorded (listing : Config → Code) (platform : Platform) :
    Recorded (rules listing platform) Config.log List.length where
  ignores config quiet drive drive' := by
    refine step_agrees rfl fun next running fetched => ?_
    have consults := (consults_iff listing config).mpr ⟨running, next, fetched⟩
    exact absurd (consults.symm.trans quiet) (by decide)
  grows drive config := by
    obtain ⟨events, log, -⟩ :=
      step_log (listing config) (emulated platform fun _ => drive) config
    simp only [rules, log, List.length_append]
    exact Nat.le_add_right _ _
  notes drive config consults := by
    obtain ⟨running, next, fetched⟩ := (consults_iff listing config).mp consults
    simp [rules, step, running, fetched, perform, Machine.faults]

/-- A run of processor and drive is one of the processor on services that find
an idle drive at every call, if its calls are proper. -/
theorem trace_alone (listing : Config → Code) (entry : Config) (fitted : Fitted platform)
    (idle : Idle disk drive.fdc)
    (proper : ∀ drives : Log → Drive, (∀ log, Idle disk (drives log).fdc) →
      CallsProperly listing platform drives entry) :
    ∃ drives : Log → Drive, (∀ log, Idle disk (drives log).fdc) ∧ ∀ count,
      trace listing platform entry drive count =
        (advance listing platform drives)^[count] entry := by
  let begun : Joint Config Drive := ⟨entry, drive⟩
  let order : Drive → Prop := fun drive => Idle disk drive.fdc
  have good : ∀ log, order (parts (rules listing platform) Config.log order begun log) :=
    parts_good order begun idle
  refine ⟨_, good, fun count => ?_⟩
  rw [← alone_advance]
  refine (runs_alone (recorded listing platform) idle (fun earlier alone consults ready => ?_)
    count).1
  rw [alone_advance] at alone
  obtain ⟨running, next, fetched⟩ := (consults_iff _ _).mp consults
  rw [alone] at running fetched
  refine int13_idle fitted ready ?_
  rw [alone]
  exact proper _ good earlier next running fetched

/-- The run is one on a BIOS that conforms, and turns out so. -/
def Realised (trace : Nat → Config) (disk : Disk) (outcome : Outcomes.Outcome) : Prop :=
  ∃ bios, Conforms bios disk ∧ (∀ count, trace count = (step code bios)^[count] (trace 0)) ∧
    Outcomes.Realises bios disk (trace 0) outcome

theorem trace_conforms (fitted : Fitted platform) (entered : Start.Entry entry)
    (idle : Idle disk drive.fdc) : ∃ bios, Conforms bios disk ∧
      ∀ count, trace (fun _ => code) platform entry drive count =
        (step code bios)^[count] entry := by
  have alone := trace_alone (fun _ => code) entry fitted idle
  obtain ⟨drives, good, same⟩ := alone fun drives good count next running fetched => by
    have agrees : (advance (fun _ => code) platform drives)^[count] entry =
        (step code (guarded platform drives disk))^[count] entry :=
      runs_agree fitted good entered count
    rw [agrees] at running fetched ⊢
    exact proper_at (guarded_honours fitted good) entered count running fetched
  exact ⟨guarded platform drives disk, guarded_conforms fitted good,
    fun count => (same count).trans (runs_agree fitted good entered count)⟩

/-- Each instruction from memory, until the loader has the processor. -/
def fetchingBoot (config : Config) : Code := fun cs ip =>
  if cs = 0 then MachineCode.fetch config.machine.memory cs ip else none

theorem boot_fetched {bios : Services} (honours : Honours bios disk) (entered : Start.Entry entry)
    (count : Nat) : let config := (step code bios)^[count] entry
    fetchingBoot config config.machine.cs config.machine.ip =
      code config.machine.cs config.machine.ip := by
  intro config
  rw [fetchingBoot]
  split_ifs with cs
  · exact Fetch.line_fetched honours entered count cs
  · exact (Finish.unknown_code cs).symm

theorem step_of_line (platform : Platform) {listing listing' : Config → Code}
    {joint : Joint Config Drive}
    (same : listing joint.state joint.state.machine.cs joint.state.machine.ip =
      listing' joint.state joint.state.machine.cs joint.state.machine.ip) :
    (rules listing platform).step joint = (rules listing' platform).step joint := by
  simp only [Rules.step, rules, consultsDrive, step, same]
  rfl

/-- The machine code takes processor and drive through the same states. -/
theorem machine_trace (fitted : Fitted platform) (entered : Start.Entry entry)
    (idle : Idle disk drive.fdc) (count : Nat) :
    trace fetchingBoot platform entry drive count =
      trace (fun _ => code) platform entry drive count := by
  obtain ⟨bios, conforms, follows⟩ := trace_conforms fitted entered idle
  have joint : (rules fetchingBoot platform).step^[count] ⟨entry, drive⟩ =
      (rules (fun _ => code) platform).step^[count] ⟨entry, drive⟩ := by
    induction count with
    | zero => rfl
    | succ count ih =>
        have place := follows count
        rw [Function.iterate_succ_apply', Function.iterate_succ_apply', ih]
        rw [trace] at place
        have line := boot_fetched conforms.honours entered count
        rw [← place] at line
        exact step_of_line platform line
  rw [trace, trace, joint]

/-- On the emulator the boot ends as the root directory and FAT1 say. -/
theorem realised_iff (fitted : Fitted platform) (entered : Start.Entry entry)
    (idle : Idle disk drive.fdc) :
    Realised (trace fetchingBoot platform entry drive) disk outcome ↔
      Outcomes.bootOutcome disk = outcome := by
  obtain ⟨bios, conforms, follows⟩ := trace_conforms fitted entered idle
  have same : ∀ count, trace fetchingBoot platform entry drive count =
      (step code bios)^[count] entry :=
    fun count => (machine_trace fitted entered idle count).trans (follows count)
  have realised := Outcomes.boot_realises conforms entered
  constructor
  · rintro ⟨bios', -, follows', realised'⟩
    refine Outcomes.realises_unique realised (realises_of_agree (fun count => ?_) realised')
    exact (same count).symm.trans (follows' count)
  · rintro rfl
    exact ⟨bios, conforms, same, realised⟩

end Systems

section MachineCode

open MachineCode SecondStage PowerOn LoadSegment Display

variable {platform : Platform} {drive : Drive} {file length turn : Nat}

theorem loader_no_disk (inLines : InLines config) (next : Word) :
    loaderCode config.machine.cs config.machine.ip ≠ some (.int13, next) := by
  have lines : (loaderLines.map Prod.fst).all (fun ip =>
      (loaderCode baseOfLoader ip).all fun line => line.1 != .int13) = true := by decide
  intro fetched
  have line := List.all_eq_true.mp lines _ inLines.line
  rw [← inLines.cs, fetched] at line
  exact absurd line (by simp)

def fetching (config : Config) : Code := fetch config.machine.memory

section Chain

variable {drives : Log → Drive} (fitted : Fitted platform) (entered : Start.Entry entry)
  (found : FirstLoader disk file) (chain : FileChain disk file length)
  (last : lastTurn length 0 = some turn)
  (stored : LoaderAt disk (fileCluster disk file turn + 31))

include entered found chain last stored

theorem machine_proper_at {bios : Services} (conforms : Conforms bios disk) (count : Nat)
    {next : Word} (running : ((run bios)^[count] entry).fault = false)
    (fetched : fetching ((run bios)^[count] entry) ((run bios)^[count] entry).machine.cs
      ((run bios)^[count] entry).machine.ip = some (.int13, next)) :
    Proper ((run bios)^[count] entry).machine := by
  rcases run_places conforms.honours conforms.succeeds entered found chain last stored count
    with ⟨same, cs⟩ | inLines
  · rw [fetching, same, Fetch.line_fetched conforms.honours entered count cs] at fetched
    rw [same] at running ⊢
    exact proper_at conforms.honours entered count running fetched
  · rw [fetching, fetch_in_lines inLines] at fetched
    exact absurd fetched (loader_no_disk inLines next)

include fitted

theorem machine_runs_agree (idle : ∀ log, Idle disk (drives log).fdc) (count : Nat) :
    (run (emulated platform drives))^[count] entry =
      (run (guarded platform drives disk))^[count] entry := by
  have conforms := guarded_conforms fitted idle
  induction count with
  | zero => rfl
  | succ count ih =>
      rw [Function.iterate_succ_apply', Function.iterate_succ_apply', ih]
      refine step_agrees rfl fun next running fetched => ?_
      have proper := machine_proper_at entered found chain last stored conforms count
        running fetched
      exact (if_pos proper).symm

theorem machine_trace_conforms (idle : Idle disk drive.fdc) : ∃ bios, Conforms bios disk ∧
    ∀ count, trace fetching platform entry drive count = (run bios)^[count] entry := by
  have alone := trace_alone fetching entry fitted idle
  obtain ⟨drives, good, same⟩ := alone fun drives good count next running fetched => by
    have agrees : (advance fetching platform drives)^[count] entry =
        (run (guarded platform drives disk))^[count] entry :=
      machine_runs_agree fitted entered found chain last stored good count
    rw [agrees] at running fetched ⊢
    exact machine_proper_at entered found chain last stored (guarded_conforms fitted good) count
      running fetched
  exact ⟨guarded platform drives disk, guarded_conforms fitted good, fun count =>
    (same count).trans (machine_runs_agree fitted entered found chain last stored good count)⟩

end Chain

def displayed (trace : Nat → Config) (count : Nat) : List Glyph :=
  (List.range count).flatMap fun earlier => prints (trace earlier)

structure Finished (trace : Nat → Config) (count : Nat) : Prop where
  fault : (trace count).fault = false
  cs : (trace count).machine.cs = baseOfLoader
  ip : (trace count).machine.ip = loaderStop
  stays : ∀ later, trace (later + count) = trace count

/-- The machine code of both programs, on the emulator, to the end. -/
theorem trace_boots (fitted : Fitted platform) (entered : Start.Entry entry)
    (idle : Idle disk drive.fdc) (found : FirstLoader disk file)
    (chain : FileChain disk file length) (last : lastTurn length 0 = some turn)
    (stored : LoaderAt disk (fileCluster disk file turn + 31)) :
    ∃ count, Finished (trace fetching platform entry drive) count ∧
      ∀ later, displayed (trace fetching platform entry drive) (count + later) =
        greeting ++ dots length ++ loaderText := by
  obtain ⟨bios, conforms, same⟩ :=
    machine_trace_conforms fitted entered found chain last stored idle
  obtain ⟨count, before, stopped, written⟩ :=
    boot_stops conforms.honours conforms.succeeds entered found chain last stored
  have halted : Halted bios ((run bios)^[count] entry) := stopped_halted stopped
  refine ⟨count, ?_, fun later => ?_⟩
  · constructor
    · rw [same]
      exact halted.fault
    · rw [same]
      exact halted.cs
    · rw [same]
      exact halted.ip
    · intro later
      rw [same, same, Function.iterate_add_apply]
      exact Function.iterate_fixed halted.stays later
  · have shown : displayed (trace fetching platform entry drive) (count + later) =
        transcript (run bios) prints entry (count + later) := by
      simp only [displayed, same]
      rfl
    rw [shown, transcript_add, written, halted_transcript stopped, List.append_nil]

end MachineCode

section Instance

def plainPlatform : Platform where
  cmos register := if register = 0x3d then 0x01 else 0x40
  stack _ _ := 0
  video _ machine := machine
  other _ machine := machine

theorem plain_fitted : Fitted plainPlatform where
  cmos := (by decide : (0x40 : Byte) >>> 4 = 4)
  video _ _ := ⟨rfl, rfl, rfl, rfl, fun _ _ => rfl⟩

def idleDrive (disk : Disk) : Drive := ⟨idleController disk, ⟨0, 0, 0, 0, true⟩⟩

end Instance

end BootSector.Emulator
