import BootSector.Fetch
import BootSector.Screen

/-!
# loader.asm

The loader of the repository: it sets its segments and stack, shows one string
and stops. Together with the boot sector it is run from memory, from power-on
to the last instruction.
-/

namespace BootSector.SecondStage

open RealMode Bios Program Execution MachineCode Screen

attribute [local simp] Walk step lineAt perform resume Machine.faults Machine.execute Machine.push
  Machine.top Machine.load16 Machine.store16 Machine.value16 Machine.reg16 Machine.setReg16
  Machine.segment Machine.setSegment

attribute [-simp] BitVec.toNat_add BitVec.toNat_sub

section Listing

def startLoaderMessage : Word := 0x27#16

def loaderStop : Word := 0x25#16

def loaderLines : List (Word × Instr) :=
  [(0x00, .mov16 ax cs),
    (0x02, .mov16 ds ax),
    (0x04, .mov16 es ax),
    (0x06, .mov16 ax 0),
    (0x09, .mov16 ss ax),
    (0x0b, .mov16 sp 0x7c00),
    (0x0e, .mov16 ax 0x1301),
    (0x11, .mov16 bx 0x000f),
    (0x14, .mov16 dx 0x0200),
    (0x17, .mov16 cx 12),
    (0x1a, .push ax),
    (0x1b, .mov16 ax ds),
    (0x1d, .mov16 es ax),
    (0x1f, .pop ax),
    (0x20, .mov16 bp startLoaderMessage),
    (0x23, .int10),
    (0x25, .jmp loaderStop)]

/-- The code of the loader, in the segment it is loaded to. -/
def loaderCode : Code := fun cs ip =>
  if cs ≠ baseOfLoader then none else lineAt startLoaderMessage loaderLines ip

def loaderText : List Glyph := onPage 0#8 (ascii "Start Loader")

/-- The 51 bytes of `loader.bin`. -/
def loaderImage : List Nat :=
  [0x8c, 0xc8, 0x8e, 0xd8, 0x8e, 0xc0, 0xb8, 0x00, 0x00, 0x8e, 0xd0, 0xbc, 0x00, 0x7c, 0xb8, 0x01,
    0x13, 0xbb, 0x0f, 0x00, 0xba, 0x00, 0x02, 0xb9, 0x0c, 0x00, 0x50, 0x8c, 0xd8, 0x8e, 0xc0, 0x58,
    0xbd, 0x27, 0x00, 0xcd, 0x10, 0xeb, 0xfe, 0x53, 0x74, 0x61, 0x72, 0x74, 0x20, 0x4c, 0x6f, 0x61,
    0x64, 0x65, 0x72]

def loaderByte (index : Nat) : Byte := BitVec.ofNat 8 (loaderImage.getD index 0)

theorem loader_encoded : (loaderLines.map Prod.fst).all
    (encodes loaderCode loaderByte 0 0x27 baseOfLoader) = true := by decide +kernel

def LoaderIn (memory : Memory) : Prop := ∀ index < 51, memory (0x10000 + index) = loaderByte index

theorem LoaderIn.of_agree {memory memory' : Memory} (loaded : LoaderIn memory)
    (agree : ∀ address, 0x10000 ≤ address → address < 0xa0000 →
      memory' address = memory address) : LoaderIn memory' := by
  intro index bound
  rw [agree _ (by omega) (by omega), loaded index bound]

theorem load_address (offset : Word) : physical baseOfLoader offset = 0x10000 + offset.toNat := rfl

theorem fetch_loader {memory : Memory} {ip : Word} (loaded : LoaderIn memory)
    (line : ip ∈ loaderLines.map Prod.fst) :
    fetch memory baseOfLoader ip = loaderCode baseOfLoader ip := by
  refine fetch_line (List.all_eq_true.mp loader_encoded ip line) ?_
  intro offset _ upper
  rw [load_address]
  exact loaded offset.toNat (by omega)

end Listing

variable {bios : Services} {disk : Nat → Byte} {config : Config}

section Steps

structure InLines (config : Config) : Prop where
  fault : config.fault = false
  cs : config.machine.cs = baseOfLoader
  line : config.machine.ip ∈ loaderLines.map Prod.fst
  loaded : LoaderIn config.machine.memory

theorem in_lines_iff : InLines config ↔ config.fault = false ∧
    config.machine.cs = baseOfLoader ∧ config.machine.ip ∈ loaderLines.map Prod.fst ∧
      LoaderIn config.machine.memory :=
  ⟨fun ⟨fault, cs, line, loaded⟩ => ⟨fault, cs, line, loaded⟩,
    fun ⟨fault, cs, line, loaded⟩ => ⟨fault, cs, line, loaded⟩⟩

structure AtMessage (entry config : Config) : Prop where
  inLines : InLines config
  ip : config.machine.ip = 0x23#16
  ax : config.machine.ax = 0x1301#16
  bx : config.machine.bx = 0x000f#16
  cx : config.machine.cx = 12#16
  dx : config.machine.dx = 0x0200#16
  bp : config.machine.bp = startLoaderMessage
  es : config.machine.es = baseOfLoader
  ss : config.machine.ss = 0#16
  sp : config.machine.sp = 0x7c00#16
  log : config.log = entry.log

/-- Fifteen lines set up the call; they write the stack alone. -/
theorem reach_message (fault : config.fault = false) (cs : config.machine.cs = baseOfLoader)
    (ip : config.machine.ip = offsetOfLoader) (loaded : LoaderIn config.machine.memory) :
    Reaches (step loaderCode bios) (fun state => InLines state ∧ state.machine.ip ≠ 0x23#16) config
      (AtMessage config) := by
  obtain ⟨⟨axW, bxW, cxW, dxW, siW, diW, bpW, spW, espHigh, csW, dsW, esW, ssW, ipW, carry, zero,
    direction, memory⟩, faultB, call, log⟩ := config
  simp only at fault cs ip loaded
  subst fault cs ip
  have pushed : LoaderIn (memory.setWord 0#16 0x7bfe#16 0x1301#16) :=
    loaded.of_agree fun address lower _ => Memory.set_word_above (lt_of_lt_of_le (by decide) lower)
  refine Runs.reaches (?_ : Runs _ True _ _ _) trivial
  apply Runs.walk 15
  simp [in_lines_iff, loaderCode, loaderLines, baseOfLoader, offsetOfLoader, loaded, pushed]
  apply Runs.here
  constructor <;> simp [in_lines_iff, loaderLines, baseOfLoader, pushed]

structure Stopped (entry config : Config) : Prop where
  inLines : InLines config
  ip : config.machine.ip = loaderStop
  log : config.log = entry.log ++ [.video 0x1301#16 0x000f#16]

theorem show_message {entry : Config} (honours : Honours bios disk)
    (atMessage : AtMessage entry config) : Stopped entry (step loaderCode bios config) := by
  have fetched : loaderCode config.machine.cs config.machine.ip = some (.int10, loaderStop) := by
    rw [atMessage.inLines.cs, atMessage.ip]
    decide
  have shown : step loaderCode bios config =
      { config with
        machine := resume config.machine (bios.video config.log config.machine) loaderStop
        log := config.log ++ [.video config.machine.ax config.machine.bx] } := by
    have fault := atMessage.inLines.fault
    simp [fault, fetched, Machine.faults]
  have stop : loaderStop ∈ loaderLines.map Prod.fst := by decide
  have keeps := honours.video config.log config.machine
  rw [shown]
  refine ⟨⟨atMessage.inLines.fault, atMessage.inLines.cs, stop, ?_⟩, rfl, ?_⟩
  · refine atMessage.inLines.loaded.of_agree fun address lower upper => ?_
    refine keeps.memory address ⟨?_, upper⟩
    rw [atMessage.ss, atMessage.sp, physical_zero]
    exact le_trans (by decide) lower
  · rw [atMessage.log, atMessage.ax, atMessage.bx]

theorem stopped_stays {entry : Config} (stopped : Stopped entry config) :
    step loaderCode bios config = config := by
  have fetched : loaderCode config.machine.cs config.machine.ip =
      some (.jmp loaderStop, startLoaderMessage) := by
    rw [stopped.inLines.cs, stopped.ip]
    decide
  have fault := stopped.inLines.fault
  have jumps : step loaderCode bios config =
      { config with machine := { config.machine with ip := loaderStop } } := by
    simp [fault, fetched]
  rw [jumps, ← stopped.ip]

end Steps

section Machine

def prints (config : Config) : List Glyph := printed (fetch config.machine.memory) config

theorem fetch_in_lines (inLines : InLines config) :
    fetch config.machine.memory config.machine.cs config.machine.ip =
      loaderCode config.machine.cs config.machine.ip := by
  rw [inLines.cs]
  exact fetch_loader inLines.loaded inLines.line

theorem prints_in_lines (inLines : InLines config) : prints config = printed loaderCode config := by
  rw [prints, printed, printed, fetch_in_lines inLines]

theorem silent_lines (inLines : InLines config) (other : config.machine.ip ≠ 0x23#16) :
    printed loaderCode config = [] := by
  have lines : (loaderLines.map Prod.fst).all (fun ip => ip == 0x23#16 ||
      (loaderCode baseOfLoader ip).all fun line => line.1 != .int10) = true := by decide
  have line := List.all_eq_true.mp lines _ inLines.line
  rw [printed, inLines.cs]
  split_ifs
  · rfl
  · split
    next known =>
      rw [known, Option.all_some, bne_self_eq_false, Bool.or_false, beq_iff_eq] at line
      exact absurd line other
    next => rfl

theorem message_text {entry : Config} (atMessage : AtMessage entry config) :
    printed loaderCode config = loaderText := by
  have fetched : loaderCode config.machine.cs config.machine.ip = some (.int10, loaderStop) := by
    rw [atMessage.inLines.cs, atMessage.ip]
    decide
  have text : string config.machine =
      (List.range 12).map fun index => loaderByte (0x27 + index) := by
    have count : config.machine.cx.toNat = 12 := by
      rw [atMessage.cx]
      rfl
    rw [string, count]
    apply List.map_congr_left
    intro index listed
    have within := List.mem_range.mp listed
    have offset : (config.machine.bp + BitVec.ofNat 16 index).toNat = 0x27 + index := by
      rw [atMessage.bp, startLoaderMessage]
      bv_omega
    rw [atMessage.es, load_address, offset]
    exact atMessage.inLines.loaded _ (by omega)
  rw [printed, atMessage.inLines.fault, fetched]
  simp only [Bool.false_eq_true, if_false, shown, atMessage.ax, atMessage.bx, text]
  decide +kernel

theorem run_message (fault : config.fault = false) (cs : config.machine.cs = baseOfLoader)
    (ip : config.machine.ip = offsetOfLoader) (loaded : LoaderIn config.machine.memory) :
    Reaches (run bios) (fun state => InLines state ∧ state.machine.ip ≠ 0x23#16) config
      (AtMessage config) := by
  have reaches : Reaches (step loaderCode bios) _ config (AtMessage config) :=
    reach_message fault cs ip loaded
  obtain ⟨count, before, atMessage⟩ := reaches
  have follows : ∀ earlier ≤ count,
      (run bios)^[earlier] config = (step loaderCode bios)^[earlier] config := by
    intro earlier within
    exact run_follows earlier fun prior less => fetch_in_lines (before prior (by omega)).1
  refine ⟨count, fun earlier less => ?_, ?_⟩
  · rw [follows earlier less.le]
    exact before earlier less
  · rw [follows count (le_refl count)]
    exact atMessage

theorem run_shows {entry : Config} (honours : Honours bios disk)
    (atMessage : AtMessage entry config) : Stopped entry (run bios config) := by
  rw [run_line (fetch_in_lines atMessage.inLines)]
  exact show_message honours atMessage

/-- Entered with its bytes in place, the loader shows its message and stops. -/
theorem loader_shows (honours : Honours bios disk) (fault : config.fault = false)
    (cs : config.machine.cs = baseOfLoader) (ip : config.machine.ip = offsetOfLoader)
    (loaded : LoaderIn config.machine.memory) :
    ∃ count, Stopped config ((run bios)^[count] config) ∧
      transcript (run bios) prints config count = loaderText := by
  have reaches : Reaches (run bios) _ config _ := run_message fault cs ip loaded
  obtain ⟨count, before, atMessage⟩ := reaches
  refine ⟨count + 1, ?_, ?_⟩
  · rw [Function.iterate_succ_apply']
    exact run_shows honours atMessage
  · have silent : transcript (run bios) prints config count = [] := by
      apply transcript_silent
      intro earlier less
      rw [prints_in_lines (before earlier less).1]
      exact silent_lines (before earlier less).1 (before earlier less).2
    rw [transcript_succ, silent, prints_in_lines atMessage.inLines, message_text atMessage]
    rfl

theorem loader_stays (honours : Honours bios disk) (fault : config.fault = false)
    (cs : config.machine.cs = baseOfLoader) (ip : config.machine.ip = offsetOfLoader)
    (loaded : LoaderIn config.machine.memory) : Forever (run bios) InLines config := by
  have reaches : Reaches (run bios) _ config _ := run_message fault cs ip loaded
  obtain ⟨count, before, atMessage⟩ := reaches
  have stopped := run_shows honours atMessage
  have fixed : run bios (run bios ((run bios)^[count] config)) =
      run bios ((run bios)^[count] config) :=
    (run_line (fetch_in_lines stopped.inLines)).trans (stopped_stays stopped)
  intro later
  rcases Nat.lt_trichotomy later count with less | rfl | more
  · exact (before later less).1
  · exact atMessage.inLines
  · obtain ⟨rest, rfl⟩ := Nat.exists_eq_add_of_le more
    rw [Nat.add_comm, Function.iterate_add_apply, Function.iterate_succ_apply',
      Function.iterate_fixed fixed]
    exact stopped.inLines

end Machine

end BootSector.SecondStage
