import BootSector.Facts
import BootSector.Start

/-!
# Control flow

The notes of the boot sector: the segments, the stack pointer, the addresses
on the stack and the registers that a line relies on. No run leaves the lines
of the listing but by the far jump, and every `RET` goes back to its `CALL`.
-/

namespace BootSector.Flow

open RealMode Bios Program Execution Facts

section Notes

/-- What holds from the start-up code on. The drive number is read before each
request, so its byte is noted too. -/
def common (sp : Word) : List Fact :=
  [.seg .cs 0, .seg .ds 0, .seg .ss 0, .reg16 .sp sp, .mem bsDrvNum.toNat 0]

def searching : List Fact := .seg .es 0 :: common baseOfStack

def loading (sp : Word) : List Fact := .seg .es baseOfLoader :: common sp

def searchFrame : Frame := ⟨readOneSector, 0x7ca0, 0x7bfe⟩
def loadFrame : Frame := ⟨readOneSector, 0x7d1c, 0x7bfc⟩
def fatFrame : Frame := ⟨readOneSector, 0x7da1, 0x7bf6⟩
def entryFrame : Frame := ⟨getFATEntry, 0x7d20, 0x7bfe⟩

def pushedBack (frame : Frame) : List Fact := learnWord 0 frame.sp frame.back

/-- Inside `GetFATEntry`: the address it returns to, and `ES` below it. -/
def decoding (sp : Word) : List Fact :=
  common sp ++ pushedBack entryFrame ++ learnWord 0 0x7bfc baseOfLoader

def reading (frame : Frame) (count : Byte) (known : List Fact) (frames : List Frame) : List Note :=
  [⟨readOneSector, .reg8 .cl count :: common frame.sp ++ pushedBack frame ++ known,
      frame :: frames⟩,
    ⟨goOnReading, .reg8 .dl 0 :: .reg16 .bp (frame.sp - 2) :: .mem (frame.sp - 4).toNat count ::
      common (frame.sp - 4) ++ pushedBack frame ++ known, frame :: frames⟩]

def sectorBuffer : List Fact := [.seg .es 0, .reg8 .bh 0x80, .reg8 .bl 0]

def labels : List Note :=
  [⟨0x7c00, [.seg .cs 0, .mem bsDrvNum.toNat 0], []⟩,
    ⟨start, [.seg .cs 0, .mem bsDrvNum.toNat 0], []⟩,
    ⟨searchInRootDirectoryBegin, common baseOfStack, []⟩,
    ⟨searchFrame.back, searching, []⟩,
    ⟨searchForLoaderBin, searching, []⟩,
    ⟨compareFileName, searching, []⟩,
    ⟨goOn, searching, []⟩,
    ⟨different, searching, []⟩,
    ⟨goToNextSectorInRootDirectory, searching, []⟩,
    ⟨noLoaderBin, common baseOfStack, []⟩,
    ⟨endlessJump, common baseOfStack, []⟩,
    ⟨fileNameFound, searching, []⟩,
    ⟨goOnLoadingFile, loading 0x7bfe, []⟩,
    ⟨loadFrame.back, loading 0x7bfe, []⟩,
    ⟨entryFrame.back, loading 0x7c00, []⟩,
    ⟨fileLoaded, loading 0x7c00, []⟩,
    ⟨offsetOfLoader, [.seg .cs baseOfLoader], []⟩,
    ⟨getFATEntry, loading 0x7bfe ++ pushedBack entryFrame, [entryFrame]⟩,
    ⟨even, .seg .es 0 :: decoding 0x7bfa, [entryFrame]⟩,
    ⟨fatFrame.back, .seg .es 0 :: decoding 0x7bf8, [entryFrame]⟩,
    ⟨even2, decoding 0x7bfa, [entryFrame]⟩] ++
  reading searchFrame 1 sectorBuffer [] ++
  reading loadFrame 1 [.seg .es baseOfLoader] [] ++
  reading fatFrame 2 (sectorBuffer ++ pushedBack entryFrame ++ learnWord 0 0x7bfc baseOfLoader)
    [entryFrame]

/-- From each label's note to the next label. -/
def notes : List Note := labels.flatMap (trace code (labels.map (·.ip)) 40)

theorem notes_checked : notes.all (Note.checked code notes) = true := by decide +kernel

end Notes

variable {bios : Services} {disk : Nat → Byte} {entry config : Config} {observed : Observed}

theorem entry_noted (entered : Start.Entry entry) : Noted notes ⟨entry, []⟩ := by
  have first : labels.head? = some ⟨0x7c00, [.seg .cs 0, .mem bsDrvNum.toNat 0], []⟩ := rfl
  have listed : ⟨0x7c00, [.seg .cs 0, .mem bsDrvNum.toNat 0], []⟩ ∈ notes :=
    List.mem_flatMap.mpr ⟨_, List.mem_of_head? first, List.mem_cons_self⟩
  refine ⟨_, listed, entered.ip, hold_pair entered.cs ?_, rfl⟩
  exact entered.loaded 0x24 (by decide)

theorem run_is_noted (honours : Honours bios disk) (entered : Start.Entry entry) :
    Forever (observe code bios) (Noted notes) ⟨entry, []⟩ :=
  run_noted honours notes_checked (entry_noted entered)

section Lines

/-- The lines control may be on while these calls are open. -/
def linesOf : List Frame → List (Word × Instr)
  | [] => entryLines ++ startLines ++ searchLines ++ noLoaderLines ++ foundLines ++ loadLines
  | frame :: _ =>
      if frame.target = readOneSector then readLines
      else if frame.target = getFATEntry then fatLines
      else []

def nestings : List (List Word) :=
  [[], [readOneSector], [getFATEntry], [readOneSector, getFATEntry]]

/-- Control is on a line of the routine called last, or past the far jump with
no call open; no more than two are open, and if two then `ReadOneSector` under
`GetFATEntry`; a `RET` matches the latest. -/
structure Flows (observed : Observed) : Prop where
  line : (observed.config.machine.cs = 0#16 ∧
      observed.config.machine.ip ∈ (linesOf observed.frames).map Prod.fst) ∨
    (observed.config.machine.cs = baseOfLoader ∧ observed.config.machine.ip = offsetOfLoader ∧
      observed.frames = [])
  depth : observed.frames.length ≤ 2
  nesting : observed.frames.map Frame.target ∈ nestings
  returns : Returns code observed

def placed (note : Note) : Bool :=
  decide (note.frames.length ≤ 2) && nestings.contains (note.frames.map Frame.target) &&
    ((seg? note.facts .cs == some 0 && ((linesOf note.frames).map Prod.fst).contains note.ip) ||
      (seg? note.facts .cs == some baseOfLoader && note.ip == offsetOfLoader &&
        note.frames.isEmpty))

theorem notes_placed : notes.all placed = true := by decide +kernel

theorem noted_flows (noted : Noted notes observed) : Flows observed := by
  obtain ⟨note, listed, ip, hold, frames⟩ := noted
  have place := List.all_eq_true.mp notes_placed note listed
  simp only [placed, Bool.and_eq_true, Bool.or_eq_true, beq_iff_eq, decide_eq_true_eq,
    List.contains_iff_mem, List.isEmpty_iff, ← ip, ← frames] at place
  have returns := returns_of_noted notes_checked ⟨note, listed, ip, hold, frames⟩
  obtain ⟨⟨depth, nesting⟩, ⟨cs, line⟩ | ⟨⟨cs, loader⟩, outermost⟩⟩ := place
  · exact ⟨.inl ⟨(seg_known hold .cs 0 cs).symm, line⟩, depth, nesting, returns⟩
  · exact ⟨.inr ⟨(seg_known hold .cs _ cs).symm, loader, outermost⟩, depth, nesting, returns⟩

/-- Control stays on the lines of the listing, call by call, whatever is on the
disk and whatever the services leave in the registers. -/
theorem control_flow (honours : Honours bios disk) (entered : Start.Entry entry) :
    Forever (observe code bios) Flows ⟨entry, []⟩ :=
  fun count => noted_flows (run_is_noted honours entered count)

theorem control_flow_three_sectors :
    Forever (observe code (floppyBios (Floppy.sequential 3) fun _ => 0)) Flows
      ⟨Start.powerOn fun _ => 0, []⟩ :=
  control_flow (floppy_bios_honours _ _) (Start.power_on_entry _)

end Lines

end BootSector.Flow
