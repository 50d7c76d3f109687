import BootSector.Diskette

/-!
# The diskette as a store

One call of the diskette service after another. Whatever they are and whatever
the controller does for them, the diskette ends up with the sectors that the
successful writes named replaced in their order, and a read gives back what the
last of them put there.
-/

namespace BootSector.Session

open RealMode Bios Extents FloppyController Diskette

section Calls

/-- Between the calls memory is the caller's. A call that does not come back is
the last. -/
def session (cmos : Byte) : Devices → List Machine → Option (List Reply × Devices)
  | devices, [] => some ([], devices)
  | devices, machine :: machines => do
      let reply ← int13DisketteFunction cmos machine { devices with memory := machine.memory }
      let (replies, devices) ← session cmos reply.devices machines
      return (reply :: replies, devices)

def stored (machine : Machine) (reply : Reply) : List (Extent Byte) :=
  if highByte machine.ax = 3 ∧ reply.carry = false then [extent machine machine.memory] else []

def writes (machines : List Machine) (replies : List Reply) : List (Extent Byte) :=
  (machines.zip replies).flatMap fun call => stored call.1 call.2

/-- A call for drive 0. What it writes does not lie in the data area, which the
BIOS changes. -/
structure Addressed (machine : Machine) : Prop where
  drive : lowByte machine.dx = 0
  buffer : highByte machine.ax = 3 → Buffered machine

end Calls

variable {disk : Nat → Byte} {cmos : Byte} {devices devices' : Devices} {machine : Machine}
  {machines : List Machine} {reply : Reply} {replies : List Reply} {writeProtected : Bool}

section Step

def Holds (writeProtected : Bool) (disk : Nat → Byte) (extents : List (Extent Byte))
    (devices : Devices) : Prop :=
  ∃ content, Holding writeProtected content devices.fdc ∧
    Agree (512 * 2880) content (written extents disk)

theorem holding_holds (holding : Holding writeProtected disk devices.fdc) :
    Holds writeProtected disk [] devices :=
  ⟨disk, holding, Agree.refl _ _⟩

theorem stored_other (other : highByte machine.ax ≠ 3) : stored machine reply = [] :=
  if_neg fun writes => other writes.1

theorem stored_failed (carry : reply.carry = true) : stored machine reply = [] :=
  if_neg fun writes => absurd (carry.symm.trans writes.2) (by decide)

theorem write_holds (fitted : cmos >>> 4 = 4) (holding : Holding writeProtected disk devices.fdc)
    (addressed : Addressed machine) (function : highByte machine.ax = 3)
    (returned : transferFunction cmos machine { devices with memory := machine.memory } =
      some reply) : Holds writeProtected disk (stored machine reply) reply.devices := by
  have same : Holding writeProtected disk { devices with memory := machine.memory }.fdc := holding
  have result := write_written fitted same function addressed.drive
  rw [returned] at result
  by_cases refused : ¬Accepted machine ∨ 80 ≤ (highByte machine.cx).toNat
  · obtain ⟨reply', same, carry, untouched⟩ := result.refused refused
    obtain rfl := Option.some_inj.mp same
    rw [stored_failed carry]
    exact holding_holds untouched.holding
  · obtain ⟨accepted, near⟩ : Accepted machine ∧ (highByte machine.cx).toNat < 80 := by
      rwa [not_or, not_not, not_le] at refused
    have track : (lowByte machine.cx).toNat ≤ 18 := by
      by_contra beyond
      exact absurd (result.panics accepted near (by omega)) nofun
    have placed : Placed machine := ⟨accepted, near, track⟩
    cases tab : writeProtected with
    | true =>
        obtain ⟨reply', same, carry, -, untouched⟩ := result.unwritable placed tab
        obtain rfl := Option.some_inj.mp same
        rw [stored_failed carry, ← tab]
        exact holding_holds untouched.holding
    | false =>
        obtain ⟨reply', content, same, carry, untouched, agree⟩ := result.stores placed tab
        obtain rfl := Option.some_inj.mp same
        rw [stored, if_pos ⟨function, carry⟩, ← tab]
        exact ⟨content, untouched.holding, agree (addressed.buffer function)⟩

theorem other_functions (reads : highByte machine.ax ≠ 2) (writes : highByte machine.ax ≠ 3)
    (verifies : highByte machine.ax ≠ 4)
    (returned : int13DisketteFunction cmos machine devices = some reply) :
    resetDrive cmos machine devices = reply ∨ readStatus machine devices = reply := by
  unfold int13DisketteFunction at returned
  split at returned
  · exact .inl (Option.some_inj.mp returned)
  · exact .inr (Option.some_inj.mp returned)
  next two => exact absurd (BitVec.eq_of_toNat_eq two) reads
  next three => exact absurd (BitVec.eq_of_toNat_eq three) writes
  next four => exact absurd (BitVec.eq_of_toNat_eq four) verifies
  · exact absurd returned nofun

/-- Of the functions modelled only the write changes the diskette. -/
theorem call_holds (fitted : cmos >>> 4 = 4) (holding : Holding writeProtected disk devices.fdc)
    (addressed : Addressed machine)
    (returned : int13DisketteFunction cmos machine { devices with memory := machine.memory } =
      some reply) : Holds writeProtected disk (stored machine reply) reply.devices := by
  have same : Holding writeProtected disk { devices with memory := machine.memory }.fdc := holding
  by_cases writes : highByte machine.ax = 3
  · rw [transfer_function (.inr (.inl writes))] at returned
    exact write_holds fitted holding addressed writes returned
  · rw [stored_other writes]
    by_cases reads : highByte machine.ax = 2
    · obtain ⟨reply', result, answered⟩ := read_answered fitted same reads addressed.drive
      rw [transfer_function (.inl reads), result] at returned
      obtain rfl := Option.some_inj.mp returned
      exact holding_holds answered.holding
    · by_cases verifies : highByte machine.ax = 4
      · obtain ⟨reply', result, rested⟩ := verify_rested cmos same.rests verifies addressed.drive
        rw [transfer_function (.inr (.inr verifies)), result] at returned
        obtain rfl := Option.some_inj.mp returned
        exact holding_holds (rested_untouched same rested).holding
      · rcases other_functions reads writes verifies returned with rfl | rfl
        · exact holding_holds (reset_holding cmos machine same)
        · exact holding_holds same

end Step

section Runs

theorem session_cons (ran : session cmos devices (machine :: machines) =
      some (replies, devices')) : ∃ reply rest,
    int13DisketteFunction cmos machine { devices with memory := machine.memory } = some reply ∧
      session cmos reply.devices machines = some (rest, devices') ∧ replies = reply :: rest := by
  simp only [session, bind, pure, Option.bind_eq_some_iff] at ran
  obtain ⟨reply, returned, ⟨rest, last⟩, after, same⟩ := ran
  obtain ⟨rfl, rfl⟩ := Prod.mk.inj (Option.some_inj.mp same)
  exact ⟨reply, rest, returned, after, rfl⟩

/-- After any run of calls the diskette holds what it did at first, with the
successful writes done in their order. -/
theorem session_holds (fitted : cmos >>> 4 = 4) (holding : Holding writeProtected disk devices.fdc)
    (addressed : ∀ machine ∈ machines, Addressed machine)
    (ran : session cmos devices machines = some (replies, devices')) :
    Holds writeProtected disk (writes machines replies) devices' := by
  induction machines generalizing disk devices replies with
  | nil =>
      obtain ⟨rfl, rfl⟩ := Prod.mk.inj (Option.some_inj.mp ran)
      exact holding_holds holding
  | cons machine machines ih =>
      obtain ⟨reply, rest, returned, after, rfl⟩ := session_cons ran
      obtain ⟨content, held, agree⟩ :=
        call_holds fitted holding (addressed machine List.mem_cons_self) returned
      obtain ⟨content', held', agree'⟩ :=
        ih held (fun machine listed => addressed machine (List.mem_cons_of_mem _ listed)) after
      refine ⟨content', held', agree'.trans ?_⟩
      have whole : written (writes (machine :: machines) (reply :: rest)) disk =
          written (writes machines rest) (written (stored machine reply) disk) :=
        List.foldl_append
      rw [whole]
      exact agree.written _

/-- A read gives back what the last successful write to name a sector put there,
or what the diskette held at first. -/
theorem last_write_read (fitted : cmos >>> 4 = 4)
    (holding : Holding writeProtected disk devices.fdc)
    (addressed : ∀ machine ∈ machines, Addressed machine)
    (ran : session cmos devices machines = some (replies, devices'))
    (reads : highByte machine.ax = 2) (first : lowByte machine.dx = 0) (placed : Placed machine)
    (buffered : Buffered machine) : ∃ reply,
    int13DisketteFunction cmos machine { devices' with memory := machine.memory } = some reply ∧
      reply.carry = false ∧ ∀ index < machine.request.size,
        512 * (transfer machine).lba + index < 512 * 2880 →
          reply.devices.memory (machine.request.start + index) =
            (latest (writes machines replies) (512 * (transfer machine).lba + index)).elim
              (disk (512 * (transfer machine).lba + index))
              fun extent => extent.data (512 * (transfer machine).lba + index - extent.first) := by
  obtain ⟨content, held, agree⟩ := session_holds fitted holding addressed ran
  have same : Holding writeProtected content { devices' with memory := machine.memory }.fdc := held
  obtain ⟨reply, result, answered⟩ := read_answered fitted same reads first
  rw [transfer_function (.inl reads)]
  refine ⟨reply, result, answered.succeeds.mpr placed, fun index bound on => ?_⟩
  rw [answered.delivers placed buffered index bound on, agree _ on, written_latest]

end Runs

section Instance

theorem write_session (fitted : cmos >>> 4 = 4) (holding : Holding false disk devices.fdc)
    (addressed : Addressed machine) (function : highByte machine.ax = 3)
    (placed : Placed machine) : ∃ reply,
    session cmos devices [machine] = some ([reply], reply.devices) ∧
      writes [machine] [reply] = [extent machine machine.memory] := by
  have same : Holding false disk { devices with memory := machine.memory }.fdc := holding
  obtain ⟨reply, content, result, carry, -, -⟩ :=
    (write_written fitted same function addressed.drive).stores placed rfl
  refine ⟨reply, ?_, ?_⟩
  · rw [session, transfer_function (.inr (.inl function)), result]
    rfl
  · simp only [writes, List.zip_cons_cons, List.zip_nil_right, List.flatMap_cons,
      List.flatMap_nil, List.append_nil, stored, function, carry, and_self, if_true]

theorem twenty_buffered (function : Byte) : Buffered (transferMachine function 20 0 1 17) where
  lower := (by decide : 0x500 ≤ physical 0x1000 0)
  upper := by
    have size : (transferMachine function 20 0 1 17).request.size =
        512 * (lowByte (wordOf function 20)).toNat := rfl
    have start : (transferMachine function 20 0 1 17).request.start = 0x10000 := rfl
    rw [size, start, low_byte_word_of]
    decide

theorem twenty_placed (function : Byte) : Placed (transferMachine function 20 0 1 17) where
  accepted :=
    { head := (by decide : (highByte (wordOf 1 0)).toNat < 2)
      sector := (by decide : 1 ≤ (lowByte (wordOf 0 17)).toNat)
      positive := by
        simp only [transferMachine, low_byte_word_of]
        decide
      count := by
        simp only [transferMachine, low_byte_word_of]
        decide
      page := by
        simp only [transferMachine, low_byte_word_of]
        decide }
  cylinder := (by decide : (highByte (wordOf 0 17)).toNat < 80)
  track := (by decide : (lowByte (wordOf 0 17)).toNat ≤ 18)

/-- Twenty sectors across two cylinders, written and read back. -/
theorem twenty_sectors_back : ∃ reply reply',
    session 0x40 (idleDevices (fun _ => 0) fun _ => 0) [transferMachine 3 20 0 1 17] =
      some ([reply], reply.devices) ∧
    int13DisketteFunction 0x40 (transferMachine 2 20 0 1 17)
      { reply.devices with memory := (transferMachine 2 20 0 1 17).memory } = some reply' ∧
    reply'.carry = false ∧ ∀ index < (transferMachine 2 20 0 1 17).request.size,
      512 * (transfer (transferMachine 2 20 0 1 17)).lba + index < 512 * 2880 →
        reply'.devices.memory ((transferMachine 2 20 0 1 17).request.start + index) =
          (latest (writes [transferMachine 3 20 0 1 17] [reply])
              (512 * (transfer (transferMachine 2 20 0 1 17)).lba + index)).elim 0
            fun extent => extent.data
              (512 * (transfer (transferMachine 2 20 0 1 17)).lba + index - extent.first) := by
  have fitted : (0x40 : Byte) >>> 4 = 4 := by decide
  have holding := idle_devices_holding (fun _ => 0) fun _ => 0
  have addressed : Addressed (transferMachine 3 20 0 1 17) :=
    ⟨by decide, fun _ => twenty_buffered 3⟩
  obtain ⟨reply, ran, -⟩ :=
    write_session fitted holding addressed (by decide) (twenty_placed 3)
  obtain ⟨reply', result, carry, back⟩ := last_write_read fitted holding
    (fun machine listed => List.mem_singleton.mp listed ▸ addressed) ran (by decide) (by decide)
    (twenty_placed 2) (twenty_buffered 2)
  exact ⟨reply, reply', ran, result, carry, back⟩

end Instance

end BootSector.Session
