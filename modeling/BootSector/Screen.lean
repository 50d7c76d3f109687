import BootSector.Flow
import BootSector.RunSafety

/-!
# What is asked of the BIOS

Every `INT 10h` of a run is one of the five calls in the source, with all that
it passes, and every `INT 13h` resets drive 0 or reads from it. What a run has
written to the display is therefore told by its log.
-/

namespace BootSector.Screen

open RealMode Bios Program Floppy Execution Facts Assertion

def ascii (text : String) : List Byte := text.toList.map fun letter => BitVec.ofNat 8 letter.toNat

def string (machine : Machine) : List Byte :=
  (List.range machine.cx.toNat).map fun index =>
    machine.memory (physical machine.es (machine.bp + BitVec.ofNat 16 index))

variable {bios : Services} {disk : Disk} {entry config : Config} {machine : Machine}

section Services

inductive VideoCall where
  | clearScreen | setFocus | startBoot | noLoader | dot
  deriving DecidableEq, Repr

namespace VideoCall

/-- The call is what the registers, and the text they point to, ask for. -/
def Made (machine : Machine) : VideoCall → Prop
  | clearScreen =>
      machine.ax = 0x0600#16 ∧ machine.bx = 0x0700#16 ∧ machine.cx = 0#16 ∧ machine.dx = 0x184f#16
  | setFocus => machine.ax = 0x0200#16 ∧ machine.bx = 0#16 ∧ machine.dx = 0#16
  | startBoot =>
      machine.ax = 0x1301#16 ∧ machine.bx = 0x000f#16 ∧ machine.dx = 0#16 ∧
        string machine = ascii "Start Boot"
  | noLoader =>
      machine.ax = 0x1301#16 ∧ machine.bx = 0x008c#16 ∧ machine.dx = 0x0100#16 ∧
        string machine = ascii "ERROR:No Loader Found"
  | dot => machine.ax = 0x0e2e#16 ∧ lowByte machine.bx = 0x0f#8

def facts : VideoCall → List Fact
  | clearScreen => learn16 .ax 0x0600 ++ learn16 .bx 0x0700 ++ learn16 .cx 0 ++ learn16 .dx 0x184f
  | setFocus => learn16 .ax 0x0200 ++ learn16 .bx 0 ++ learn16 .dx 0
  | startBoot =>
      [.seg .es 0, .reg16 .bp startBootMessage] ++ learn16 .ax 0x1301 ++ learn16 .bx 0x000f ++
        learn16 .cx 10 ++ learn16 .dx 0
  | noLoader =>
      [.seg .es 0, .reg16 .bp noLoaderMessage] ++ learn16 .ax 0x1301 ++ learn16 .bx 0x008c ++
        learn16 .cx 21 ++ learn16 .dx 0x0100
  | dot => learn16 .ax 0x0e2e ++ [.reg8 .bl 0x0f]

end VideoCall

/-- `AH = 00h` resets the drive, `AH = 02h` reads from it. -/
structure Serviced (config : Config) : Prop where
  video : ∀ next, code config.machine.cs config.machine.ip = some (.int10, next) →
    ∃ call : VideoCall, call.Made config.machine
  drive : ∀ next, code config.machine.cs config.machine.ip = some (.int13, next) →
    lowByte config.machine.dx = 0#8 ∧
      (highByte config.machine.ax = 0#8 ∨ highByte config.machine.ax = 2#8)

def servicesNoted (note : Note) : Bool :=
  match code 0 note.ip with
  | some (.int10, _) =>
      [.clearScreen, .setFocus, .startBoot, .noLoader, .dot].any fun call : VideoCall =>
        call.facts.all note.facts.contains
  | some (.int13, _) =>
      reg8? note.facts .dl == some 0 &&
        (reg8? note.facts .ah == some 0 || reg8? note.facts .ah == some 2)
  | _ => true

theorem services_noted : Flow.notes.all servicesNoted = true := by decide +kernel

theorem string_of_image {place length : Nat} (es : machine.es = 0#16)
    (bp : machine.bp = BitVec.ofNat 16 (0x7c00 + place))
    (cx : machine.cx = BitVec.ofNat 16 length) (bound : place + length ≤ 512)
    (kept : ∀ index < length, machine.memory (0x7c00 + place + index) = imageByte (place + index)) :
    string machine = (List.range length).map fun index => imageByte (place + index) := by
  have count : machine.cx.toNat = length := by
    rw [cx, BitVec.toNat_ofNat]
    omega
  rw [string, count]
  apply List.map_congr_left
  intro index listed
  have within := List.mem_range.mp listed
  have address : (machine.bp + BitVec.ofNat 16 index).toNat = 0x7c00 + place + index := by
    rw [bp, ← BitVec.ofNat_add, BitVec.toNat_ofNat]
    omega
  rw [es, physical_zero, address, kept index within]

/-- The texts of the image are never written over. -/
theorem texts_kept (honours : Honours bios disk) (entered : Start.Entry entry) (count : Nat)
    {index : Nat} (lower : 0x1bc ≤ index) (upper : index < 512) :
    ((step code bios)^[count] entry).machine.memory (0x7c00 + index) = imageByte index := by
  have outside : ¬Footprint 0x7bf0 (0x7c00 + index) := by
    simp only [Footprint]
    omega
  rw [RunSafety.memory_kept honours entered (by omega) (by omega) outside count]
  exact entered.loaded index upper

theorem video_call_made (call : VideoCall) (hold : Hold machine call.facts)
    (texts : ∀ index, 0x1bc ≤ index → index < 512 →
      machine.memory (0x7c00 + index) = imageByte index) : call.Made machine := by
  have word : ∀ register value, reg16? call.facts register = some value →
      machine.reg16 register = value := fun register value known =>
    (reg16_known hold register value known).symm
  cases call with
  | clearScreen =>
      exact ⟨word .ax _ (by decide), word .bx _ (by decide), word .cx _ (by decide),
        word .dx _ (by decide)⟩
  | setFocus => exact ⟨word .ax _ (by decide), word .bx _ (by decide), word .dx _ (by decide)⟩
  | startBoot =>
      refine ⟨word .ax _ (by decide), word .bx _ (by decide), word .dx _ (by decide), ?_⟩
      have image : string machine = (List.range 10).map fun index => imageByte (0x1bc + index) :=
        string_of_image (hold (.seg .es 0) (by decide)) (word .bp _ (by decide))
          (word .cx _ (by decide)) (by decide) (fun index within => by
            rw [Nat.add_assoc]
            exact texts _ (by omega) (by omega))
      rw [image]
      decide +kernel
  | noLoader =>
      refine ⟨word .ax _ (by decide), word .bx _ (by decide), word .dx _ (by decide), ?_⟩
      have image : string machine = (List.range 21).map fun index => imageByte (0x1c6 + index) :=
        string_of_image (hold (.seg .es 0) (by decide)) (word .bp _ (by decide))
          (word .cx _ (by decide)) (by decide) (fun index within => by
            rw [Nat.add_assoc]
            exact texts _ (by omega) (by omega))
      rw [image]
      decide +kernel
  | dot => exact ⟨word .ax _ (by decide), hold (.reg8 .bl 0x0f) (by decide)⟩

theorem code_in_segment {cs ip : Word} {line : Instr × Word} (fetched : code cs ip = some line) :
    code 0 ip = some line := by
  have segment : cs = 0 := by
    by_contra other
    rw [code, if_pos other] at fetched
    cases fetched
  rwa [segment] at fetched

theorem noted_serviced (texts : ∀ index, 0x1bc ≤ index → index < 512 →
      config.machine.memory (0x7c00 + index) = imageByte index) {frames : List Frame}
    (noted : Noted Flow.notes ⟨config, frames⟩) : Serviced config := by
  obtain ⟨note, listed, ip, hold, -⟩ := noted
  have services := List.all_eq_true.mp services_noted note listed
  constructor
  · intro next fetched
    have line : code 0 note.ip = some (.int10, next) := ip ▸ code_in_segment fetched
    simp only [servicesNoted, line] at services
    obtain ⟨call, -, known⟩ := List.any_eq_true.mp services
    refine ⟨call, video_call_made call (fun fact asked => hold fact ?_) texts⟩
    exact List.contains_iff_mem.mp (List.all_eq_true.mp known fact asked)
  · intro next fetched
    have line : code 0 note.ip = some (.int13, next) := ip ▸ code_in_segment fetched
    simp only [servicesNoted, line, Bool.and_eq_true, Bool.or_eq_true, beq_iff_eq] at services
    obtain ⟨drive, function⟩ := services
    refine ⟨(reg8_known hold .dl 0 drive).symm, ?_⟩
    exact function.imp (fun known => (reg8_known hold .ah 0 known).symm)
      (fun known => (reg8_known hold .ah 2 known).symm)

theorem run_serviced (honours : Honours bios disk) (entered : Start.Entry entry) :
    Forever (observe code bios) (fun observed => Noted Flow.notes observed ∧
      Serviced observed.config) ⟨entry, []⟩ := by
  intro count
  have noted := Flow.run_is_noted honours entered count
  have texts : ∀ index, 0x1bc ≤ index → index < 512 →
      ((step code bios)^[count] entry).machine.memory (0x7c00 + index) = imageByte index :=
    fun _ => texts_kept honours entered count
  rw [← observe_iterate code bios ⟨entry, []⟩ count] at texts
  exact ⟨noted, noted_serviced texts noted⟩

/-- No run asks the BIOS for anything else; in particular none writes to the
disk. -/
theorem services_asked (honours : Honours bios disk) (entered : Start.Entry entry) :
    Forever (step code bios) Serviced entry := by
  intro count
  have serviced := (run_serviced honours entered count).2
  rwa [observe_iterate] at serviced

theorem services_asked_three_sectors :
    Forever (step code (floppyBios (sequential 3) fun _ => 0)) Serviced
      (Start.powerOn fun _ => 0) :=
  services_asked (floppy_bios_honours _ _) (Start.power_on_entry _)

end Services

section Transcript

structure Glyph where
  page : Byte
  letter : Byte
  deriving DecidableEq, Repr

def onPage (page : Byte) (text : List Byte) : List Glyph := text.map (Glyph.mk page)

/-- The characters a video call writes: a string, one character, or none. The
page is in `BH`. -/
def shown (machine : Machine) : List Glyph :=
  if highByte machine.ax = 0x13#8 then onPage (highByte machine.bx) (string machine)
  else if highByte machine.ax = 0x0e#8 then onPage (highByte machine.bx) [lowByte machine.ax]
  else []

def printed (listing : Code) (config : Config) : List Glyph :=
  if config.fault then []
  else match listing config.machine.cs config.machine.ip with
    | some (.int10, _) => shown config.machine
    | _ => []

def transcript (next : Config → Config) (prints : Config → List Glyph) (entry : Config)
    (count : Nat) : List Glyph :=
  (List.range count).flatMap fun earlier => prints (next^[earlier] entry)

theorem transcript_succ (next : Config → Config) (prints : Config → List Glyph) (entry : Config)
    (count : Nat) : transcript next prints entry (count + 1) =
      transcript next prints entry count ++ prints (next^[count] entry) := by
  rw [transcript, List.range_succ, List.flatMap_append, List.flatMap_singleton, ← transcript]

theorem transcript_congr {next next' : Config → Config} {prints prints' : Config → List Glyph}
    {entry entry' : Config} {count : Nat} (same : ∀ earlier < count,
      prints (next^[earlier] entry) = prints' (next'^[earlier] entry')) :
    transcript next prints entry count = transcript next' prints' entry' count :=
  List.flatMap_congr fun earlier listed => same earlier (List.mem_range.mp listed)

theorem transcript_silent {next : Config → Config} {prints : Config → List Glyph} {entry : Config}
    {count : Nat} (silent : ∀ earlier < count, prints (next^[earlier] entry) = []) :
    transcript next prints entry count = [] :=
  List.flatMap_eq_nil_iff.mpr fun earlier listed => silent earlier (List.mem_range.mp listed)

theorem transcript_add (next : Config → Config) (prints : Config → List Glyph) (entry : Config)
    (count more : Nat) : transcript next prints entry (count + more) =
      transcript next prints entry count ++ transcript next prints (next^[count] entry) more := by
  induction more with
  | zero => exact (List.append_nil _).symm
  | succ more ih =>
      rw [← Nat.add_assoc, transcript_succ, ih, transcript_succ, List.append_assoc,
        ← Function.iterate_add_apply, Nat.add_comm more count]

/-- The two strings differ in the attribute. -/
def eventText : Event → List Glyph
  | .video ax bx =>
      if highByte ax = 0x13#8 then
        onPage (highByte bx) (if bx = 0x000f#16 then ascii "Start Boot"
          else ascii "ERROR:No Loader Found")
      else if highByte ax = 0x0e#8 then onPage (highByte bx) [lowByte ax]
      else []
  | _ => []

def logText (log : Log) : List Glyph := log.flatMap eventText

theorem log_text_append (log more : Log) : logText (log ++ more) = logText log ++ logText more :=
  List.flatMap_append

theorem log_text_single (event : Event) : logText [event] = eventText event :=
  List.flatMap_singleton ..

theorem call_text {call : VideoCall} (made : call.Made machine) :
    eventText (.video machine.ax machine.bx) = shown machine := by
  cases call with
  | clearScreen =>
      obtain ⟨ax, -⟩ := made
      rw [eventText, shown, ax]
      rfl
  | setFocus =>
      obtain ⟨ax, -⟩ := made
      rw [eventText, shown, ax]
      rfl
  | startBoot =>
      obtain ⟨ax, bx, -, text⟩ := made
      rw [eventText, shown, ax, bx, text]
      rfl
  | noLoader =>
      obtain ⟨ax, bx, -, text⟩ := made
      rw [eventText, shown, ax, bx, text]
      rfl
  | dot =>
      obtain ⟨ax, -⟩ := made
      rw [eventText, shown, ax]
      rfl

theorem disk_text (call : Call) (before after : Machine) :
    eventText (diskEvent call before after) = [] := by
  rw [diskEvent]
  split_ifs <;> rfl

theorem step_text (serviced : Serviced config) :
    logText (step code bios config).log = logText config.log ++ printed code config := by
  cases fault : config.fault with
  | true => simp [step_faulted fault, printed, fault]
  | false =>
      cases fetched : code config.machine.cs config.machine.ip with
      | none => simp [step_outside fetched, printed, fetched]
      | some line =>
          obtain ⟨instr, next⟩ := line
          simp only [step, fault, fetched, perform, printed]
          cases instr with
          | int10 =>
              obtain ⟨call, made⟩ := serviced.video next fetched
              have added : logText (config.log ++ [.video config.machine.ax config.machine.bx]) =
                  logText config.log ++ shown config.machine := by
                rw [log_text_append, log_text_single, call_text made]
              exact added
          | int13 =>
              have added : ∀ after, logText (config.log ++
                  [diskEvent config.call config.machine after]) = logText config.log ++ [] := by
                intro after
                rw [log_text_append, log_text_single, disk_text]
              exact added _
          | _ => split_ifs <;> exact (List.append_nil _).symm

/-- The display of every run, by its log. -/
theorem transcript_eq (honours : Honours bios disk) (entered : Start.Entry entry) (count : Nat) :
    transcript (step code bios) (printed code) entry count =
      logText ((step code bios)^[count] entry).log := by
  induction count with
  | zero => rw [Function.iterate_zero, id_eq, entered.log]; rfl
  | succ count ih =>
      have serviced := (run_serviced honours entered count).2
      rw [observe_iterate] at serviced
      rw [transcript_succ, ih, Function.iterate_succ_apply', step_text serviced]

end Transcript

end BootSector.Screen
