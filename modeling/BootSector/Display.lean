import BootSector.Dots
import BootSector.Outcomes

/-!
# What the user sees

The text written to the display by the end of a boot, or while it goes on
forever: the greeting, a dot for each cluster asked for, and the error message
if there is no loader.
-/

namespace BootSector.Display

open RealMode Bios Program Floppy Execution Loader LoadFile FileLoading EndMarks Outcomes Screen

variable {bios : Services} {disk : Disk} {entry config : Config} {file turns position : Nat}

section Texts

def greeting : List Glyph := onPage 0#8 (ascii "Start Boot")

def dots (count : Nat) : List Glyph :=
  (List.range count).map fun position => ⟨BitVec.ofNat 8 (2 * position), 0x2e#8⟩

theorem start_text (ax dx : Word) : logText (Start.startLog ax dx) = greeting := rfl

theorem reads_text {log : Log} (reads : ∀ event ∈ log, ∃ call request failed,
    event = .read call request failed) : logText log = [] := by
  rw [logText, List.flatMap_eq_nil_iff]
  intro event listed
  obtain ⟨call, request, failed, rfl⟩ := reads event listed
  rfl

theorem search_text (sectors : Nat) : logText (searchLog sectors) = [] := by
  apply reads_text
  intro event listed
  obtain ⟨sector, -, rfl⟩ := List.mem_map.mp listed
  exact ⟨_, _, _, rfl⟩

theorem dots_succ (count : Nat) :
    dots (count + 1) = dots count ++ [⟨BitVec.ofNat 8 (2 * count), 0x2e#8⟩] := by
  rw [dots, List.range_succ, List.map_append, List.map_singleton, ← dots]

theorem dot_text (count : Nat) :
    eventText (dotEvent count) = [⟨BitVec.ofNat 8 (2 * count), 0x2e#8⟩] := by
  rw [← Dots.dot_page, ← high_byte_word_of (highByte (BitVec.ofNat 16 (512 * count))) 0x0f#8]
  rfl

theorem loop_text (disk : Disk) (file turns : Nat) :
    logText (loopLog disk file turns) = dots turns := by
  induction turns with
  | zero => rfl
  | succ turns ih =>
      have turn : ∀ cluster, logText (turnLog cluster turns) = eventText (dotEvent turns) :=
        fun _ => rfl
      rw [loop_log_succ, log_text_append, ih, turn, dot_text, dots_succ]

theorem boot_text (disk : Disk) (file turns : Nat) (ax dx : Word) :
    logText (bootLog disk file turns ax dx) = greeting ++ dots turns := by
  rw [bootLog, log_text_append, log_text_append, start_text, search_text, loop_text,
    List.append_nil]

theorem settled_text (log : Log) : logText (settled log) = logText log := by
  induction log with
  | nil => rfl
  | cons event log ih =>
      cases event with
      | video ax bx => exact congrArg (eventText (.video ax bx) ++ ·) ih
      | disk ax dx => exact congrArg (eventText (.disk ax dx) ++ ·) ih
      | read call request failed =>
          cases failed with
          | false => exact ih
          | true => exact ih

/-- One dot is shown before the division fails, with or without a read. -/
theorem fault_text (cluster : Nat) : logText (Phase.loading cluster 0).events = dots 1 := by
  simp only [Phase.events]
  split_ifs <;> rfl

end Texts

section Screens

/-- What has been written for good, if the boot ever stops writing. -/
def screenText : Outcome → Option (List Glyph)
  | .missing => some (greeting ++ onPage 0#8 (ascii "ERROR:No Loader Found"))
  | .divideError => some (greeting ++ dots 1)
  | .loaded length => some (greeting ++ dots length)
  | .stalled position => some (greeting ++ dots (position + 1))
  | .looping => none

theorem rested_text {outcome : Outcome} (rested : Rested disk outcome config) :
    screenText outcome = some (logText config.log) := by
  cases outcome with
  | missing =>
      obtain ⟨-, -, -, -, ax, dx, log⟩ := rested
      rw [log, log_text_append, log_text_append, start_text, search_text, List.append_nil]
      rfl
  | divideError =>
      obtain ⟨-, file, ax, dx, -, -, log⟩ := rested
      have noDots : dots 0 = [] := rfl
      rw [log, log_text_append, boot_text, fault_text, noDots, List.append_nil]
      rfl
  | loaded length =>
      obtain ⟨-, -, file, ax, dx, -, log⟩ := rested
      rw [log, boot_text]
      rfl
  | stalled position => exact rested.elim
  | looping => exact rested.elim

/-- Where the boot stalls the text is complete with the dot of the turn. -/
theorem stalled_text {count : Nat} (stalls : Stalls bios disk entry file position count)
    (later : Nat) : logText ((step code bios)^[later + count] entry).log =
      greeting ++ dots (position + 1) := by
  obtain ⟨ax, dx, log⟩ := stalls.log
  obtain ⟨attempts, grown⟩ := stalls.only later
  have silent : logText (List.replicate attempts (refusedRead disk file position)) = [] := by
    apply reads_text
    intro event listed
    exact ⟨_, _, _, List.eq_of_mem_replicate listed⟩
  rw [grown, log_text_append, silent, List.append_nil, ← settled_text, log, log_text_append,
    boot_text, log_text_single, dot_text, List.append_assoc, dots_succ]

/-- The text comes to stand on the display and stays, or the dots never end. -/
theorem screen_shows (conforms : Conforms bios disk) (entered : Start.Entry entry) :
    (∀ text, screenText (bootOutcome disk) = some text →
      ∃ count, ∀ later, transcript (step code bios) (printed code) entry (later + count) = text) ∧
    (screenText (bootOutcome disk) = none → ∀ turns, ∃ count,
      transcript (step code bios) (printed code) entry count = greeting ++ dots turns) := by
  have realised := boot_realises conforms entered
  have shows : ∀ count, transcript (step code bios) (printed code) entry count = _ :=
    transcript_eq conforms.honours entered
  have resting : RestsIn bios entry (Rested disk (bootOutcome disk)) →
      ∀ text, screenText (bootOutcome disk) = some text →
        ∃ count, ∀ later,
          transcript (step code bios) (printed code) entry (later + count) = text := by
    rintro ⟨count, fixed, rested⟩ text same
    refine ⟨count, fun later => ?_⟩
    rw [shows, Function.iterate_add_apply, Function.iterate_fixed fixed]
    exact Option.some.inj ((rested_text rested).symm.trans same)
  cases outcome : bootOutcome disk with
  | missing =>
      rw [outcome] at realised resting
      exact ⟨resting realised, nofun⟩
  | divideError =>
      rw [outcome] at realised resting
      exact ⟨resting realised, nofun⟩
  | loaded length =>
      rw [outcome] at realised resting
      exact ⟨resting realised, nofun⟩
  | stalled position =>
      rw [outcome] at realised
      obtain ⟨file, count, stalls⟩ := realised
      refine ⟨?_, nofun⟩
      rintro text ⟨⟩
      refine ⟨count, fun later => ?_⟩
      rw [shows]
      exact stalled_text stalls later
  | looping =>
      rw [outcome] at realised
      obtain ⟨file, -, turns⟩ := realised
      refine ⟨nofun, fun _ more => ?_⟩
      obtain ⟨count, ax, dx, log⟩ := turns more
      exact ⟨count, by rw [shows, log, boot_text]⟩

theorem three_sectors_shown : ∃ count, ∀ later,
    transcript (step code (floppyBios (sequential 3) fun _ => 0)) (printed code)
      (Start.powerOn fun _ => 0) (later + count) = greeting ++ dots 3 :=
  (screen_shows (floppy_bios_conforms _) (Start.power_on_entry _)).1 _ (by decide +kernel)

end Screens

end BootSector.Display
