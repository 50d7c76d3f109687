import BootSector.LoadFile

/-!
# The ends of a run

The far jump out of the boot sector, the message and the endless jump where no
loader is found, and the divide error.
-/

namespace BootSector.Finish

open RealMode Bios Program Execution Assertion

attribute [local simp] Walk step code lineAt noLoaderLines loadLines perform resume Machine.faults
  Machine.execute Machine.push Machine.top Machine.load8 Machine.store8 Machine.load16
  Machine.store16 Machine.value8 Machine.value16 Machine.reg8 Machine.setReg8 Machine.reg16
  Machine.setReg16 Machine.segment Machine.setSegment Machine.offset Machine.stores
  Machine.stored8 Machine.stored16 Machine.lowered Machine.asks Instr.interrupts Sound LabelSafe
  LineSafe

attribute [local simp] start searchInRootDirectoryBegin searchForLoaderBin noLoaderBin
  fileNameFound goOnLoadingFile fileLoaded readOneSector baseOfStack baseOfLoader
  offsetOfLoader noLoaderMessage endlessJump

attribute [-simp] BitVec.toNat_add BitVec.toNat_sub

variable {floor : Nat} {allowed : Allowed} {bios : Services}
  {disk : Nat → Byte} {config : Config}

structure Jumped (entry config : Config) : Prop where
  fault : config.fault = false
  cs : config.machine.cs = baseOfLoader
  ip : config.machine.ip = offsetOfLoader
  memory : config.machine.memory = entry.machine.memory
  log : config.log = entry.log

theorem far_jump (fault : config.fault = false) (cs : config.machine.cs = 0#16)
    (ip : config.machine.ip = fileLoaded) : Jumped config (step code bios config) := by
  obtain ⟨⟨ax, bx, cx, dx, si, di, bp, sp, espHigh, csW, ds, es, ss, ipW, carry, zero,
    direction, memory⟩, faultB, call, log⟩ := config
  simp only at fault cs ip
  subst fault cs ip
  constructor <;> simp

theorem unknown_code (cs : config.machine.cs ≠ 0#16) :
    code config.machine.cs config.machine.ip = none := by
  simp [cs]

theorem jumped_sound {entry : Config} (jumped : Jumped entry config) :
    Forever (step code bios) (Sound floor allowed) config := by
  have outside : code config.machine.cs config.machine.ip = none := by
    apply unknown_code
    rw [jumped.cs]
    decide
  refine Forever.of_fixed (step_outside outside) ?_
  refine ⟨jumped.fault, by simp [jumped.ip], ?_⟩
  intro instr next fetched
  rw [outside] at fetched
  cases fetched

theorem loaded_sound {count : Nat} (ended : LoadFile.AtEnd count config) :
    Forever (step code bios) (Sound floor allowed) config := by
  obtain ⟨ready, ip, sp, es, bx⟩ := ended
  apply Forever.next
  · simp [ready.fault, ready.cs, ip, sp]
  · exact jumped_sound (far_jump ready.fault ready.cs ip)

theorem show_error {after : Config → Prop} (missing : Search.AtMissing config)
    (low : floor ≤ 0x7bfe)
    (final : ∀ machine, machine.cs = 0#16 → after
      { config with
        machine := resume machine (bios.video config.log machine) 0x7ced#16
        log := config.log ++ [.video 0x1301#16 0x008c#16] }) :
    Walk (step code bios) (Sound floor allowed) after 10 config := by
  obtain ⟨⟨fault, cs, ds, ss, intact⟩, ip, sp, es, bx⟩ := missing
  obtain ⟨⟨ax, bxW, cx, dx, si, di, bp, spW, espHigh, csW, dsW, esW, ssW, ipW, carry, zero,
    direction, memory⟩, faultB, call, log⟩ := config
  simp only at fault cs ds ss ip sp final
  subst fault cs ds ss ip
  simp [sp]
  refine ⟨⟨⟨.inl ⟨low, by decide⟩, .inl ⟨by omega, by decide⟩⟩, low⟩, ?_⟩
  simpa using final _ rfl

structure Halted (bios : Services) (entry config : Config) : Prop where
  fault : config.fault = false
  cs : config.machine.cs = 0#16
  ip : config.machine.ip = endlessJump
  fixed : step code bios config = config
  log : config.log = entry.log ++ [.video 0x1301#16 0x008c#16]

theorem endless_jump (fault : config.fault = false) (cs : config.machine.cs = 0#16)
    (ip : config.machine.ip = endlessJump) : step code bios config = config := by
  obtain ⟨⟨ax, bx, cx, dx, si, di, bp, sp, espHigh, csW, ds, es, ss, ipW, carry, zero,
    direction, memory⟩, faultB, call, log⟩ := config
  simp only at fault cs ip
  subst fault cs ip
  simp

theorem missing_halts (low : floor ≤ 0x7bfe) (missing : Search.AtMissing config) :
    Reaches (step code bios) (Sound floor allowed) config (Halted bios config) := by
  have halts : Runs (step code bios) True (Sound floor allowed) config (Halted bios config) := by
    apply Runs.walk
    apply show_error missing low
    intro machine cs
    apply Runs.here
    exact
      { fault := missing.ready.fault, cs := cs, ip := rfl
        fixed := endless_jump missing.ready.fault cs rfl
        log := rfl }
  exact halts.reaches trivial

theorem missing_sound (low : floor ≤ 0x7bfe) (missing : Search.AtMissing config) :
    Forever (step code bios) (Sound floor allowed) config := by
  refine (missing_halts low missing).forever ?_
  intro later halted
  refine Forever.of_fixed halted.fixed ⟨halted.fault, ?_, ?_⟩
  · simp [halted.ip]
  · intro instr next fetched
    rw [halted.cs, halted.ip] at fetched
    simp at fetched
    obtain ⟨rfl, -⟩ := fetched
    simp

theorem faulting_elsewhere (place : Word) {next : Word} {instr : Instr} (faulting : Faulting config)
    (line : code 0#16 place = some (instr, next)) (sound : config.machine.faults instr = false) :
    config.machine.ip ≠ place := by
  obtain ⟨fault, other, after, fetched, faults⟩ := faulting
  have cs : config.machine.cs = 0#16 := by
    by_contra outside
    rw [unknown_code outside] at fetched
    cases fetched
  rintro rfl
  rw [cs, line] at fetched
  obtain ⟨rfl, -⟩ := Prod.mk.inj (Option.some.inj fetched)
  rw [sound] at faults
  cases faults

theorem faulting_labels (faulting : Faulting config) :
    LabelSafe allowed config ∧ ¬Ended config := by
  have search := faulting_elsewhere searchForLoaderBin faulting rfl rfl
  have loaded := faulting_elsewhere fileLoaded faulting rfl rfl
  have missing := faulting_elsewhere noLoaderBin faulting rfl rfl
  have loading := faulting_elsewhere goOnLoadingFile faulting rfl rfl
  exact ⟨⟨fun place => absurd place search, fun place => absurd place loaded,
    fun place => absurd place loading⟩, fun ended => ended.elim loaded missing⟩

theorem fault_stops (faulting : Faulting config) :
    step code bios config = { config with fault := true } := by
  obtain ⟨fault, instr, next, fetched, faults⟩ := faulting
  simp only [step, fault, fetched, perform, faults]
  rfl

/-- A divide error stops the run at a line that writes nothing. -/
theorem fault_safe (faulting : Faulting config) :
    Forever (step code bios) (Safe floor allowed) config := by
  have labels : LabelSafe allowed config := (faulting_labels faulting).1
  have stops : step code bios config = _ := fault_stops faulting
  obtain ⟨fault, instr, next, fetched, faults⟩ := faulting
  apply Forever.next
  · refine fun _ => ⟨labels, ?_⟩
    intro other after same
    rw [fetched] at same
    obtain ⟨rfl, -⟩ := Prod.mk.inj (Option.some.inj same)
    cases instr with
    | div8 src => simp
    | div16 src => simp
    | _ => simp at faults
  · rw [stops]
    refine Forever.of_fixed (step_faulted rfl) ?_
    exact fun running => absurd running (by simp)

theorem fault_never_ends (faulting : Faulting config) :
    Forever (step code bios) (fun later => ¬Ended later) config := by
  have labels : LabelSafe .any config ∧ ¬Ended config := faulting_labels faulting
  refine Forever.next labels.2 ?_
  rw [fault_stops faulting]
  exact Forever.of_fixed (step_faulted rfl) labels.2

end BootSector.Finish
