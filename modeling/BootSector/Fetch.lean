import BootSector.FileLoading
import BootSector.Flow
import BootSector.MachineCode

/-!
# The image runs the listing

The bytes of the image decode to the listing, line by line, and no run writes
to them. So a processor that fetches every instruction from memory takes the
steps of the listing until it jumps into the loader.
-/

namespace BootSector.Fetch

open RealMode Bios Program Floppy Execution Assertion FileLoading MachineCode

variable {bios : Services} {disk : Disk} {entry : Config} {memory : Memory} {ip : Word}

section Image

def lines : List (Word × Instr) :=
  entryLines ++ startLines ++ searchLines ++ noLoaderLines ++ foundLines ++ loadLines ++
    readLines ++ fatLines

def imageAt (offset : Nat) : Byte := imageByte (offset - 0x7c00)

theorem lines_encoded :
    (lines.map Prod.fst).all (encodes code imageAt 0x7c00 0x7db7 0#16) = true := by
  decide +kernel

/-- The code of the image: the instructions and the parameter block. -/
def Unwritten (memory : Memory) : Prop :=
  ∀ index < 0x1b7, memory (0x7c00 + index) = imageByte index

theorem fetch_unwritten (unwritten : Unwritten memory) (line : ip ∈ lines.map Prod.fst) :
    fetch memory 0#16 ip = code 0#16 ip := by
  refine fetch_line (List.all_eq_true.mp lines_encoded ip line) ?_
  intro offset lower upper
  have place := unwritten (offset.toNat - 0x7c00) (by omega)
  rw [Nat.add_sub_cancel' lower] at place
  rw [physical_zero, place, imageAt]

end Image

section Runs

theorem code_unwritten (honours : Honours bios disk) (entered : Start.Entry entry) (count : Nat) :
    Unwritten ((step code bios)^[count] entry).machine.memory := by
  intro index bound
  have outside : ¬Footprint 0x7bf0 (0x7c00 + index) := by
    simp only [Footprint]
    omega
  rw [RunSafety.memory_kept honours entered (by omega) (by omega) outside count]
  exact entered.loaded index (by omega)

theorem flow_lines {frames : List Facts.Frame}
    (line : ip ∈ (Flow.linesOf frames).map Prod.fst) : ip ∈ lines.map Prod.fst := by
  have inside : (Flow.linesOf frames).map Prod.fst ⊆ lines.map Prod.fst := by
    apply List.map_subset
    cases frames with
    | nil =>
        exact fun _ listed => List.mem_append_left _ (List.mem_append_left _ listed)
    | cons frame rest =>
        simp only [Flow.linesOf]
        split_ifs
        · exact fun _ listed => List.mem_append_left _ (List.mem_append_right _ listed)
        · exact fun _ listed => List.mem_append_right _ listed
        · exact List.nil_subset _
  exact inside line

theorem flow_place (honours : Honours bios disk) (entered : Start.Entry entry) (count : Nat) :
    (((step code bios)^[count] entry).machine.cs = 0#16 ∧
      ((step code bios)^[count] entry).machine.ip ∈ lines.map Prod.fst) ∨
    InLoader ((step code bios)^[count] entry) := by
  have line := (Flow.noted_flows (Flow.run_is_noted honours entered count)).line
  simp only [Facts.observe_iterate] at line
  exact line.imp (fun ⟨cs, listed⟩ => ⟨cs, flow_lines listed⟩) (fun ⟨cs, ip, _⟩ => ⟨cs, ip⟩)

/-- Before the far jump, what memory holds at `CS:IP` is the line of the
listing. -/
theorem line_fetched (honours : Honours bios disk) (entered : Start.Entry entry) (count : Nat)
    (inside : ((step code bios)^[count] entry).machine.cs = 0#16) :
    fetch ((step code bios)^[count] entry).machine.memory
        ((step code bios)^[count] entry).machine.cs ((step code bios)^[count] entry).machine.ip =
      code ((step code bios)^[count] entry).machine.cs
        ((step code bios)^[count] entry).machine.ip := by
  rcases flow_place honours entered count with ⟨_, listed⟩ | loader
  · rw [inside]
    exact fetch_unwritten (code_unwritten honours entered count) listed
  · exact absurd loader (zero_outside inside)

theorem run_listing (honours : Honours bios disk) (entered : Start.Entry entry) (count : Nat)
    (inside : ∀ earlier < count, ((step code bios)^[earlier] entry).machine.cs = 0#16) :
    (run bios)^[count] entry = (step code bios)^[count] entry :=
  run_follows count fun earlier less => line_fetched honours entered earlier (inside earlier less)

/-- Up to the far jump the machine code takes the steps of the listing, whatever
is on the disk and whatever the services do. -/
theorem machine_code_runs (honours : Honours bios disk) (entered : Start.Entry entry)
    (count : Nat) : (∃ earlier < count, InLoader ((step code bios)^[earlier] entry)) ∨
      (run bios)^[count] entry = (step code bios)^[count] entry := by
  by_cases jumped : ∃ earlier < count, InLoader ((step code bios)^[earlier] entry)
  · exact .inl jumped
  · refine .inr (run_listing honours entered count fun earlier less => ?_)
    rcases flow_place honours entered earlier with ⟨cs, _⟩ | loader
    · exact cs
    · exact absurd ⟨earlier, less, loader⟩ jumped

theorem machine_code_runs_three_sectors :
    (∃ earlier < 100, InLoader ((step code (floppyBios (sequential 3) fun _ => 0))^[earlier]
      (Start.powerOn fun _ => 0))) ∨
    (run (floppyBios (sequential 3) fun _ => 0))^[100] (Start.powerOn fun _ => 0) =
      (step code (floppyBios (sequential 3) fun _ => 0))^[100] (Start.powerOn fun _ => 0) :=
  machine_code_runs (floppy_bios_honours _ _) (Start.power_on_entry _) 100

end Runs

end BootSector.Fetch
