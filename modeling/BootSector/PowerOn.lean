import BootSector.Display
import BootSector.LoadSegment
import BootSector.SecondStage

/-!
# From the boot sector's entry to the loader's message

A processor that fetches every instruction from memory runs both programs: the
boot sector from its entry, and from the far jump on the loader that it read
from the disk.
-/

namespace BootSector.PowerOn

open RealMode Bios Program Floppy Execution MachineCode Screen SecondStage Display LoadFile
  FileLoading LoadSegment

variable {bios : Services} {disk : Disk} {entry config : Config} {file length turn : Nat}

section Boot

structure Halted (bios : Services) (config : Config) : Prop where
  fault : config.fault = false
  cs : config.machine.cs = baseOfLoader
  ip : config.machine.ip = loaderStop
  stays : run bios config = config

def LoaderAt (disk : Disk) (sector : Nat) : Prop :=
  ∀ index < 51, disk (512 * sector + index) = loaderByte index

theorem stopped_halted (stopped : Stopped entry config) : Halted bios config where
  fault := stopped.inLines.fault
  cs := stopped.inLines.cs
  ip := stopped.ip
  stays := (run_line (fetch_in_lines stopped.inLines)).trans (stopped_stays stopped)

theorem stopped_silent (stopped : Stopped entry config) : prints config = [] := by
  rw [prints_in_lines stopped.inLines]
  apply silent_lines stopped.inLines
  rw [stopped.ip]
  decide

theorem halted_transcript (stopped : Stopped entry config) (later : Nat) :
    transcript (run bios) prints config later = [] := by
  apply transcript_silent
  intro earlier _
  have stays : (run bios)^[earlier] config = config :=
    Function.iterate_fixed (stopped_halted stopped).stays earlier
  rw [stays]
  exact stopped_silent stopped

/-- The first block of the segment has the loader, if the last sector that went
there has it. -/
theorem loader_in (loaded : SegmentLoaded disk file length entry config)
    (last : lastTurn length 0 = some turn)
    (stored : LoaderAt disk (fileCluster disk file turn + 31)) :
    LoaderIn config.machine.memory := by
  intro index bound
  have block := loaded.blocks 0 (by decide) index (by omega)
  rw [last] at block
  exact block.trans (stored index bound)

theorem boot_runs (honours : Honours bios disk) (entered : Start.Entry entry) {count : Nat}
    (outside : ∀ earlier < count, ¬InLoader ((step code bios)^[earlier] entry)) :
    (run bios)^[count] entry = (step code bios)^[count] entry ∧
      transcript (run bios) prints entry count =
        logText ((step code bios)^[count] entry).log := by
  have inside : ∀ earlier < count, ((step code bios)^[earlier] entry).machine.cs = 0#16 := by
    intro earlier less
    rcases Fetch.flow_place honours entered earlier with ⟨cs, _⟩ | loader
    · exact cs
    · exact absurd loader (outside earlier less)
  have follows : ∀ earlier ≤ count, (run bios)^[earlier] entry = (step code bios)^[earlier] entry :=
    fun earlier within => Fetch.run_listing honours entered earlier
      fun prior less => inside prior (less.trans_le within)
  refine ⟨follows count (le_refl count), ?_⟩
  rw [← transcript_eq honours entered]
  apply transcript_congr
  intro earlier less
  rw [follows earlier less.le, prints, printed, printed,
    Fetch.line_fetched honours entered earlier (inside earlier less)]

/-- Entering the loader, with its bytes in place and the boot sector's text on
the display. -/
structure HandedOver (length : Nat) (config : Config) : Prop where
  fault : config.fault = false
  cs : config.machine.cs = baseOfLoader
  ip : config.machine.ip = offsetOfLoader
  loaded : LoaderIn config.machine.memory
  text : logText config.log = greeting ++ dots length

section Chain

variable (honours : Honours bios disk) (succeeds : Succeeds bios) (entered : Start.Entry entry)
  (found : FirstLoader disk file) (chain : FileChain disk file length)
  (last : lastTurn length 0 = some turn)
  (stored : LoaderAt disk (fileCluster disk file turn + 31))

include honours succeeds entered found chain last stored

theorem handed_over : Reaches (step code bios) (fun config => ¬InLoader config) entry
    (HandedOver length) := by
  refine (file_entered honours succeeds entered found chain).mono (fun _ => id) ?_
  rintro config ⟨before, complete, jumped⟩
  obtain ⟨ax, dx, log⟩ := complete.log
  refine ⟨jumped.fault, jumped.cs, jumped.ip, ?_, ?_⟩
  · rw [jumped.memory]
    exact loader_in (complete_segment chain complete) last stored
  · rw [jumped.log, log]
    exact boot_text disk file length ax dx

/-- The machine code is on the boot sector's lines or on the loader's. -/
theorem run_places (count : Nat) :
    ((run bios)^[count] entry = (step code bios)^[count] entry ∧
      ((step code bios)^[count] entry).machine.cs = 0#16) ∨
    InLines ((run bios)^[count] entry) := by
  have enters : Reaches (step code bios) _ entry _ :=
    handed_over honours succeeds entered found chain last stored
  obtain ⟨jump, outside, there⟩ := enters
  by_cases early : count < jump
  · have before : ∀ earlier < count, ¬InLoader ((step code bios)^[earlier] entry) :=
      fun earlier less => outside earlier (less.trans early)
    rcases Fetch.flow_place honours entered count with ⟨cs, _⟩ | loader
    · exact .inl ⟨(boot_runs honours entered before).1, cs⟩
    · exact absurd loader (outside count early)
  · obtain ⟨later, rfl⟩ := Nat.exists_eq_add_of_le' (Nat.le_of_not_lt early)
    rw [Function.iterate_add_apply, (boot_runs honours entered outside).1]
    exact .inr (loader_stays honours there.fault there.cs there.ip there.loaded later)

end Chain

theorem boot_stops (honours : Honours bios disk) (succeeds : Succeeds bios)
    (entered : Start.Entry entry) (found : FirstLoader disk file)
    (chain : FileChain disk file length) (last : lastTurn length 0 = some turn)
    (stored : LoaderAt disk (fileCluster disk file turn + 31)) :
    ∃ count before, Stopped before ((run bios)^[count] entry) ∧
      transcript (run bios) prints entry count = greeting ++ dots length ++ loaderText := by
  have enters : Reaches (step code bios) _ entry _ :=
    handed_over honours succeeds entered found chain last stored
  obtain ⟨count, outside, there⟩ := enters
  obtain ⟨follows, written⟩ := boot_runs honours entered outside
  obtain ⟨more, stopped, shows⟩ := loader_shows honours there.fault there.cs there.ip there.loaded
  have arrives : (run bios)^[count + more] entry =
      (run bios)^[more] ((step code bios)^[count] entry) := by
    rw [Nat.add_comm, Function.iterate_add_apply, follows]
  refine ⟨count + more, (step code bios)^[count] entry, ?_, ?_⟩
  · rw [arrives]
    exact stopped
  · rw [transcript_add, written, there.text, follows, shows]

/-- From the entry at 0000:7C00 both programs run to the end: the greeting, a
dot for each cluster, the loader's message, and nothing after it. -/
theorem boots_to_message (honours : Honours bios disk) (succeeds : Succeeds bios)
    (entered : Start.Entry entry) (found : FirstLoader disk file)
    (chain : FileChain disk file length) (last : lastTurn length 0 = some turn)
    (stored : LoaderAt disk (fileCluster disk file turn + 31)) :
    ∃ count, Halted bios ((run bios)^[count] entry) ∧
      ∀ later, transcript (run bios) prints entry (count + later) =
        greeting ++ dots length ++ loaderText := by
  obtain ⟨count, before, stopped, written⟩ :=
    boot_stops honours succeeds entered found chain last stored
  refine ⟨count, stopped_halted stopped, fun later => ?_⟩
  rw [transcript_add, written, halted_transcript stopped, List.append_nil]

end Boot

section Image

/-- The bytes of `boot.img` outside its zeros: the boot sector, the two tables,
the directory entry and the loader. -/
def bootImg : Disk := fun address =>
  if address < 512 then imageByte address
  else if address / 512 = 1 ∨ address / 512 = 10 then
    ([0x00, 0x00, 0x00, 0x00, 0xf0, 0xff] : List Byte).getD (address % 512) 0
  else if address / 512 = 19 then
    ([0x41, 0x6c, 0x00, 0x6f, 0x00, 0x61, 0x00, 0x64, 0x00, 0x65, 0x00, 0x0f, 0x00, 0xab, 0x72,
      0x00, 0x2e, 0x00, 0x62, 0x00, 0x69, 0x00, 0x6e, 0x00, 0x00, 0x00, 0x00, 0x00, 0xff, 0xff,
      0xff, 0xff, 0x4c, 0x4f, 0x41, 0x44, 0x45, 0x52, 0x20, 0x20, 0x42, 0x49, 0x4e, 0x20, 0x00,
      0x15, 0xcc, 0x5e, 0xc8, 0x54, 0xc8, 0x54, 0x00, 0x00, 0xcc, 0x5e, 0xc8, 0x54, 0x03, 0x00,
      0x33, 0x00, 0x00, 0x00] : List Byte).getD (address % 512) 0
  else if address / 512 = 34 then loaderByte (address % 512)
  else 0

/-- The entry of the long name comes first and is passed over. -/
theorem boot_img_first_loader : FirstLoader bootImg 1 where
  bound := by decide
  named := by decide
  first := by
    intro earlier less
    obtain rfl : earlier = 0 := by omega
    decide

theorem boot_img_chain : FileChain bootImg 1 1 where
  positive := by decide
  inside := by
    intro position within
    obtain rfl : position = 0 := by omega
    decide
  last := by decide

theorem boot_img_loader : LoaderAt bootImg (fileCluster bootImg 1 0 + 31) := by
  unfold LoaderAt
  decide

theorem boot_img_boots : ∃ count,
    Halted (floppyBios bootImg fun _ => 0)
      ((run (floppyBios bootImg fun _ => 0))^[count] (Start.powerOn fun _ => 0)) ∧
    ∀ later, transcript (run (floppyBios bootImg fun _ => 0)) prints (Start.powerOn fun _ => 0)
      (count + later) = greeting ++ dots 1 ++ loaderText :=
  boots_to_message (floppy_bios_honours _ _) (floppy_bios_succeeds _) (Start.power_on_entry _)
    boot_img_first_loader boot_img_chain rfl boot_img_loader

end Image

end BootSector.PowerOn
