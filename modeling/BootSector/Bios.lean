import BootSector.RealMode
import Mathlib.Tactic.SplitIfs

/-!
# Interrupts and runs

A BIOS is a parameter: what `INT 10h` and `INT 13h` do to the machine, given
everything the program has asked of it so far. A configuration is the machine
with what an observer outside it sees: the last `CALL`, and the interrupts
issued in order.
-/

namespace BootSector.Bios

open RealMode

/-- What `INT 13h` with `AH = 02h` asks for, read off the registers. -/
structure Request where
  count : Nat
  cylinder : Nat
  sector : Nat
  head : Nat
  drive : Nat
  segment : Word
  offset : Word
  deriving DecidableEq, Repr

namespace Request

/-- Two heads and 18 sectors a track, sectors counted from one. -/
def lba (request : Request) : Nat :=
  (request.cylinder * 2 + request.head) * 18 + request.sector - 1

def start (request : Request) : Nat := physical request.segment request.offset

def size (request : Request) : Nat := 512 * request.count

def Covers (request : Request) (address : Nat) : Prop :=
  request.start ≤ address ∧ address < request.start + request.size

instance (request : Request) (address : Nat) : Decidable (request.Covers address) :=
  inferInstanceAs (Decidable (_ ∧ _))

def ofLba (count lba : Nat) (segment offset : Word) : Request where
  count
  cylinder := lba / 36
  sector := lba % 18 + 1
  head := lba / 18 % 2
  drive := 0
  segment
  offset

@[simp] theorem lba_of_lba (count lba : Nat) (segment offset : Word) :
    (ofLba count lba segment offset).lba = lba := by
  simp only [Request.lba, ofLba]
  omega

/-- A transfer a floppy controller can carry out: it stays on one track and
in one 64 KiB page. -/
structure WellFormed (request : Request) : Prop where
  drive : request.drive = 0
  head : request.head < 2
  count : 1 ≤ request.count
  sector : 1 ≤ request.sector
  track : request.sector + request.count - 1 ≤ 18
  segment_end : request.offset.toNat + request.size ≤ 65536
  page : request.start / 65536 = (request.start + request.size - 1) / 65536

def OnDisk (request : Request) : Prop :=
  request.WellFormed ∧ request.lba + request.count ≤ 2880

theorem well_formed_iff (request : Request) : request.WellFormed ↔
    request.drive = 0 ∧ request.head < 2 ∧ 1 ≤ request.count ∧ 1 ≤ request.sector ∧
      request.sector + request.count - 1 ≤ 18 ∧
      request.offset.toNat + request.size ≤ 65536 ∧
      request.start / 65536 = (request.start + request.size - 1) / 65536 :=
  ⟨fun ⟨drive, head, count, sector, track, ending, page⟩ =>
      ⟨drive, head, count, sector, track, ending, page⟩,
    fun ⟨drive, head, count, sector, track, ending, page⟩ =>
      ⟨drive, head, count, sector, track, ending, page⟩⟩

instance (request : Request) : Decidable request.WellFormed :=
  decidable_of_iff _ (well_formed_iff request).symm

instance (request : Request) : Decidable request.OnDisk :=
  inferInstanceAs (Decidable (_ ∧ _))

end Request

/-- The `CALL` executed last: where it went, where it returns to, and the
argument in `AX`. -/
structure Call where
  target : Word
  back : Word
  ax : Word
  deriving DecidableEq, Repr

inductive Event where
  | video (ax bx : Word)
  | disk (ax dx : Word)
  | read (call : Call) (request : Request) (failed : Bool)
  deriving DecidableEq, Repr

abbrev Log := List Event

/-- The log without the attempts at a read that failed. -/
def settled (log : Log) : Log :=
  log.filter fun
    | .read _ _ true => false
    | _ => true

def completed (log : Log) : List (Call × Request) :=
  log.filterMap fun
    | .read call request false => some (call, request)
    | _ => none

/-- The attempts, failed ones included, made by a `CALL` that returns to
`back`. -/
def readsFor (back : Word) (log : Log) : List Request :=
  log.filterMap fun
    | .read call request _ => if call.back = back then some request else none
    | _ => none

/-- How often the latest read has failed since the last one that succeeded. -/
def pending (log : Log) : Nat :=
  log.foldl (fun count event => match event with
    | .read _ _ true => count + 1
    | .read _ _ false => 0
    | _ => count) 0

@[simp] theorem settled_append (log more : Log) :
    settled (log ++ more) = settled log ++ settled more := by
  simp [settled]

@[simp] theorem completed_append (log more : Log) :
    completed (log ++ more) = completed log ++ completed more := by
  simp [completed]

@[simp] theorem reads_for_append (back : Word) (log more : Log) :
    readsFor back (log ++ more) = readsFor back log ++ readsFor back more := by
  simp [readsFor]

@[simp] theorem pending_append_failed (log : Log) (call : Call) (request : Request) :
    pending (log ++ [.read call request true]) = pending log + 1 := by
  simp [pending]

structure Services where
  video : Log → Machine → Machine
  disk : Log → Machine → Machine

structure Config where
  machine : Machine
  fault : Bool
  call : Call
  log : Log

end BootSector.Bios

namespace BootSector.RealMode.Machine

open Bios

def isRead (machine : Machine) : Bool := highByte machine.ax == 2

def request (machine : Machine) : Request where
  count := (lowByte machine.ax).toNat
  cylinder := (highByte machine.cx).toNat + 256 * ((lowByte machine.cx).toNat / 64)
  sector := (lowByte machine.cx).toNat % 64
  head := (highByte machine.dx).toNat
  drive := (lowByte machine.dx).toNat
  segment := machine.es
  offset := machine.bx

def asks (machine : Machine) : Instr → Option Request
  | .int13 => if machine.isRead then some machine.request else none
  | _ => none

end BootSector.RealMode.Machine

namespace BootSector.Bios

open RealMode

def diskEvent (call : Call) (before after : Machine) : Event :=
  if before.isRead then .read call before.request after.carry
  else .disk before.ax before.dx

def resume (before after : Machine) (next : Word) : Machine :=
  { after with cs := before.cs, ip := next }

def perform (bios : Services) (instr : Instr) (next : Word) (config : Config) : Config :=
  if config.machine.faults instr then { config with fault := true }
  else match instr with
    | .int10 =>
        { config with
          machine := resume config.machine (bios.video config.log config.machine) next
          log := config.log ++ [.video config.machine.ax config.machine.bx] }
    | .int13 =>
        let after := bios.disk config.log config.machine
        { config with
          machine := resume config.machine after next
          log := config.log ++ [diskEvent config.call config.machine after] }
    | .call target =>
        { config with
          machine := config.machine.execute next (.call target)
          call := { target, back := next, ax := config.machine.ax } }
    | other => { config with machine := config.machine.execute next other }

abbrev Code := Word → Word → Option (Instr × Word)

/-- A processor that faulted, or left the known code, takes no step here. -/
def step (code : Code) (bios : Services) (config : Config) : Config :=
  if config.fault then config
  else match code config.machine.cs config.machine.ip with
    | none => config
    | some (instr, next) => perform bios instr next config

theorem step_outside {code : Code} {bios : Services} {config : Config}
    (outside : code config.machine.cs config.machine.ip = none) :
    step code bios config = config := by
  rw [step, outside, ite_self]

theorem step_faulted {code : Code} {bios : Services} {config : Config}
    (fault : config.fault = true) : step code bios config = config := by
  rw [step, if_pos fault]

theorem read_logged {code : Code} {bios : Services} {config : Config} {call : Call}
    {request : Request} {failed : Bool}
    (listed : .read call request failed ∈ (step code bios config).log) :
    .read call request failed ∈ config.log ∨ config.fault = false ∧ call = config.call ∧
      ∃ instr next, code config.machine.cs config.machine.ip = some (instr, next) ∧
        request ∈ config.machine.asks instr := by
  cases fault : config.fault with
  | true =>
      rw [step_faulted fault] at listed
      exact .inl listed
  | false =>
      cases fetched : code config.machine.cs config.machine.ip with
      | none =>
          rw [step_outside fetched] at listed
          exact .inl listed
      | some line =>
          obtain ⟨instr, next⟩ := line
          simp only [step, fault, fetched, perform] at listed
          cases faults : config.machine.faults instr with
          | true =>
              rw [faults] at listed
              exact .inl listed
          | false =>
              rw [faults] at listed
              cases instr with
              | int10 => exact .inl (by simpa using listed)
              | int13 =>
                  cases reads : config.machine.isRead with
                  | false => exact .inl (by simpa [diskEvent, reads] using listed)
                  | true =>
                      rcases List.mem_append.mp listed with old | issued
                      · exact .inl old
                      · rw [diskEvent, if_pos reads, List.mem_singleton] at issued
                        injection issued with same made
                        exact .inr ⟨rfl, same, _, next, rfl, by simp [Machine.asks, reads, made]⟩
              | _ => exact .inl listed

theorem step_log (code : Code) (bios : Services) (config : Config) :
    ∃ events, (step code bios config).log = config.log ++ events ∧ events.length ≤ 1 := by
  have same : ∃ events, config.log = config.log ++ events ∧ events.length ≤ 1 :=
    ⟨[], (List.append_nil _).symm, Nat.zero_le 1⟩
  cases fault : config.fault with
  | true => rwa [step_faulted fault]
  | false =>
      cases fetched : code config.machine.cs config.machine.ip with
      | none => rwa [step_outside fetched]
      | some line =>
          obtain ⟨instr, next⟩ := line
          simp only [step, fault, fetched, perform]
          cases faults : config.machine.faults instr with
          | true => exact same
          | false =>
              cases instr with
              | int10 => exact ⟨[_], rfl, le_refl 1⟩
              | int13 => exact ⟨[_], rfl, le_refl 1⟩
              | _ => exact same

/-- A step whose reads succeed logs no failed attempt. -/
theorem settled_step {code : Code} {bios : Services} {admitted : Request → Prop} {config : Config}
    (succeeds : ∀ log machine, machine.isRead → admitted machine.request →
      (bios.disk log machine).carry = false)
    (asks : ∀ instr next, code config.machine.cs config.machine.ip = some (instr, next) →
      ∀ request ∈ config.machine.asks instr, admitted request)
    (before : settled config.log = config.log) :
    settled (step code bios config).log = (step code bios config).log := by
  cases fault : config.fault with
  | true => rwa [step_faulted fault]
  | false =>
      cases fetched : code config.machine.cs config.machine.ip with
      | none => rwa [step_outside fetched]
      | some line =>
          obtain ⟨instr, next⟩ := line
          simp only [step, fault, fetched, perform]
          cases faults : config.machine.faults instr with
          | true => exact before
          | false =>
              cases instr with
              | int10 => exact (settled_append ..).trans (congrArg (· ++ _) before)
              | int13 =>
                  cases reads : config.machine.isRead with
                  | false =>
                      simp only [diskEvent, reads]
                      exact (settled_append ..).trans (congrArg (· ++ _) before)
                  | true =>
                      have carry := succeeds config.log config.machine reads
                        (asks _ _ fetched _ (by simp [Machine.asks, reads]))
                      simp only [diskEvent, reads, carry]
                      exact (settled_append ..).trans (congrArg (· ++ _) before)
              | _ => exact before

section Contract

/-- Conventional memory from the stack pointer up: what a program keeps there
is its own. -/
def Owned (machine : Machine) (address : Nat) : Prop :=
  physical machine.ss machine.sp ≤ address ∧ address < 0xa0000

/-- A service other than a read leaves the stack and the segments alone. -/
structure Keeps (before after : Machine) : Prop where
  sp : after.sp = before.sp
  ss : after.ss = before.ss
  ds : after.ds = before.ds
  es : after.es = before.es
  memory : ∀ address, Owned before address → after.memory address = before.memory address

/-- A read, failed or not, changes `AX`, the flags and its buffer; what the
BIOS pushes below the stack pointer and keeps outside conventional memory is
not constrained. -/
structure ReadKeeps (before after : Machine) : Prop where
  bx : after.bx = before.bx
  cx : after.cx = before.cx
  dx : after.dx = before.dx
  si : after.si = before.si
  di : after.di = before.di
  bp : after.bp = before.bp
  sp : after.sp = before.sp
  ds : after.ds = before.ds
  es : after.es = before.es
  ss : after.ss = before.ss
  memory : ∀ address, Owned before address → ¬before.request.Covers address →
    after.memory address = before.memory address

/-- The assumptions on a BIOS serving a disk: a read that succeeds delivers the
sectors it names. Whether an attempt succeeds is left open. -/
structure Honours (bios : Services) (disk : Nat → Byte) : Prop where
  video : ∀ log machine, Keeps machine (bios.video log machine)
  other : ∀ log machine, machine.isRead = false → Keeps machine (bios.disk log machine)
  read : ∀ log machine, machine.isRead → ReadKeeps machine (bios.disk log machine)
  data : ∀ log machine, machine.isRead → machine.request.WellFormed →
    (bios.disk log machine).carry = false → ∀ index < machine.request.size,
      (bios.disk log machine).memory (machine.request.start + index) =
        disk (512 * machine.request.lba + index)

/-- Each time the request is made it fails as often as assigned, then succeeds;
the assignment goes by the number of reads completed before it. -/
def Serves (bios : Services) (failures : Nat → Nat) (request : Request) : Prop :=
  ∀ log machine, machine.isRead → machine.request = request →
    (bios.disk log machine).carry = decide (pending log < failures (completed log).length)

def Recovers (bios : Services) (failures : Nat → Nat) : Prop :=
  ∀ request, request.OnDisk → Serves bios failures request

def Succeeds (bios : Services) : Prop :=
  ∀ log machine, machine.isRead → machine.request.OnDisk →
    (bios.disk log machine).carry = false

/-- Reads beyond the last cylinder, the 80th, fail whenever they are tried. -/
def Refuses (bios : Services) : Prop :=
  ∀ log machine, machine.isRead → 80 ≤ machine.request.cylinder →
    (bios.disk log machine).carry = true

theorem serves_of_success {bios : Services} {request : Request}
    (succeeds : ∀ log machine, machine.isRead → machine.request = request →
      (bios.disk log machine).carry = false) : Serves bios (fun _ => 0) request := by
  intro log machine reads same
  simpa using succeeds log machine reads same

end Contract

def deliver (disk : Nat → Byte) (request : Request) (memory : Memory) : Memory :=
  fun address =>
    if request.Covers address then disk (512 * request.lba + (address - request.start))
    else memory address

/-- A floppy BIOS that touches nothing it need not. A failing attempt leaves
80h in `AH` and F6h in the buffer. -/
def floppyBios (disk : Nat → Byte) (failures : Nat → Nat) : Services where
  video _ machine := machine
  disk log machine :=
    if machine.isRead then
      if machine.request.OnDisk ∧ ¬pending log < failures (completed log).length then
        { machine with
          ax := wordOf 0 (lowByte machine.ax)
          carry := false
          memory := deliver disk machine.request machine.memory }
      else
        { machine with
          ax := 0x8000
          carry := true
          memory := deliver (fun _ => 0xf6) machine.request machine.memory }
    else machine

theorem floppy_bios_honours (disk : Nat → Byte) (failures : Nat → Nat) :
    Honours (floppyBios disk failures) disk where
  video _ _ := ⟨rfl, rfl, rfl, rfl, fun _ _ => rfl⟩
  other _ _ notRead := by
    simp only [floppyBios, notRead]
    exact ⟨rfl, rfl, rfl, rfl, fun _ _ => rfl⟩
  read log machine reads := by
    simp only [floppyBios, reads, if_true]
    split_ifs
    · exact ⟨rfl, rfl, rfl, rfl, rfl, rfl, rfl, rfl, rfl, rfl, fun _ _ out => if_neg out⟩
    · exact ⟨rfl, rfl, rfl, rfl, rfl, rfl, rfl, rfl, rfl, rfl, fun _ _ out => if_neg out⟩
  data log machine reads _ success index bound := by
    simp only [floppyBios, reads, if_true] at success ⊢
    split_ifs at success ⊢
    · have covered : machine.request.Covers (machine.request.start + index) :=
        ⟨Nat.le_add_right _ _, by omega⟩
      simp only [deliver, if_pos covered]
      rw [Nat.add_sub_cancel_left]

theorem floppy_bios_recovers (disk : Nat → Byte) (failures : Nat → Nat) :
    Recovers (floppyBios disk failures) failures := by
  rintro request present log machine reads rfl
  simp only [floppyBios, reads, if_true, present, true_and]
  split_ifs with ready
  · simpa using ready
  · simpa using ready

theorem floppy_bios_succeeds (disk : Nat → Byte) : Succeeds (floppyBios disk fun _ => 0) := by
  intro log machine reads present
  simpa using floppy_bios_recovers disk (fun _ => 0) machine.request present log machine reads rfl

theorem floppy_bios_refuses (disk : Nat → Byte) (failures : Nat → Nat) :
    Refuses (floppyBios disk failures) := by
  intro log machine reads beyond
  have absent : ¬machine.request.OnDisk := by
    rintro ⟨formed, present⟩
    have counted := formed.count
    have sector := formed.sector
    simp only [Request.lba] at present
    omega
  simp [floppyBios, reads, absent]

end BootSector.Bios
