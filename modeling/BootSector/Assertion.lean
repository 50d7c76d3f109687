import BootSector.Execution
import BootSector.Program

/-!
# Assertions on the boot sector's states

`Good` is what holds at every state between two labels of the program: no
divide error is due, the bytes about to be written belong to the program's
working memory, the stack stays above a floor, and a read about to be issued
or a cluster about to be loaded is one that `allowed` admits.
-/

namespace BootSector.Assertion

open RealMode Bios Program Execution

/-- Stack, variables, sector buffer and load segment. -/
def Footprint (floor address : Nat) : Prop :=
  (floor ≤ address ∧ address < 0x7c00) ∨ (0x7db7 ≤ address ∧ address < 0x7dbc) ∨
    (0x8000 ≤ address ∧ address < 0x8400) ∨ (0x10000 ≤ address ∧ address < 0x20000)

/-- The reads, each with the `CALL` it serves, and the clusters a run may come
up with. -/
structure Allowed where
  read : Call → Request → Prop
  cluster : Word → Prop

def Allowed.any : Allowed := ⟨fun _ _ => True, fun _ => True⟩

def Allowed.reading (admitted : Request → Prop) : Allowed := ⟨fun _ => admitted, fun _ => True⟩

variable (floor : Nat) (allowed : Allowed)

def LineSafe (instr : Instr) (config : Config) : Prop :=
  (∀ address ∈ config.machine.stores instr, Footprint floor address) ∧
    (∀ lower ∈ config.machine.lowered instr, floor ≤ lower.toNat ∧ lower.toNat ≤ 0x7c00) ∧
    (∀ request ∈ config.machine.asks instr, allowed.read config.call request ∧
      ∀ address, request.Covers address → Footprint floor address) ∧
    (instr.interrupts → config.machine.ss = 0#16 ∧ config.machine.sp.toNat ≤ 0x7c00)

/-- What holds on arrival at the labels that carry the loading loop. -/
def LabelSafe (config : Config) : Prop :=
  (config.machine.ip = searchForLoaderBin → config.machine.sp = baseOfStack) ∧
    (config.machine.ip = fileLoaded → config.machine.sp = baseOfStack) ∧
    (config.machine.ip = goOnLoadingFile → config.machine.ss = 0#16 ∧
      config.machine.sp = 0x7bfe#16 ∧ config.machine.ax = config.machine.top + 31#16 ∧
      config.machine.es = baseOfLoader ∧ config.machine.bx.toNat % 512 = 0 ∧
      allowed.cluster config.machine.top)

def Ended (config : Config) : Prop :=
  config.machine.ip = fileLoaded ∨ config.machine.ip = noLoaderBin

structure EndsAt (bios : Services) (entry : Config) (count : Nat) : Prop where
  running : ∀ earlier < count, ¬Ended ((step code bios)^[earlier] entry)
  ended : Ended ((step code bios)^[count] entry)

theorem EndsAt.unique {bios : Services} {entry : Config} {count count' : Nat}
    (first : EndsAt bios entry count) (second : EndsAt bios entry count') : count = count' := by
  rcases Nat.lt_trichotomy count count' with less | same | more
  · exact absurd first.ended (second.running _ less)
  · exact same
  · exact absurd second.ended (first.running _ more)

theorem EndsAt.of_reaches {bios : Services} {entry : Config} {after : Config → Prop}
    (reaches : Reaches (step code bios) (fun config => ¬Ended config) entry after)
    (ended : ∀ config, after config → Ended config) :
    ∃ count, EndsAt bios entry count ∧ after ((step code bios)^[count] entry) := by
  obtain ⟨count, running, final⟩ := reaches
  exact ⟨count, ⟨running, ended _ final⟩, final⟩

def Good (config : Config) : Prop :=
  config.fault = false ∧ ¬Ended config ∧ LabelSafe allowed config ∧
    match code config.machine.cs config.machine.ip with
    | none => False
    | some (instr, _) => config.machine.faults instr = false ∧
        LineSafe floor allowed instr config

/-- `Good`, of the ends of a run and what comes after them as well. -/
def Sound (config : Config) : Prop :=
  config.fault = false ∧ LabelSafe allowed config ∧
    ∀ instr next, code config.machine.cs config.machine.ip = some (instr, next) →
      config.machine.faults instr = false ∧ LineSafe floor allowed instr config

/-- What holds at every state of every run, up to a divide error. -/
def Safe (config : Config) : Prop :=
  config.fault = false → LabelSafe allowed config ∧
    ∀ instr next, code config.machine.cs config.machine.ip = some (instr, next) →
      LineSafe floor allowed instr config

variable {floor allowed}

theorem Good.sound (config : Config) (good : Good floor allowed config) :
    Sound floor allowed config := by
  obtain ⟨fault, _, labels, line⟩ := good
  refine ⟨fault, labels, ?_⟩
  intro instr next fetched
  rw [fetched] at line
  exact line

theorem Sound.safe (config : Config) (sound : Sound floor allowed config) :
    Safe floor allowed config :=
  fun _ => ⟨sound.2.1, fun instr next fetched => (sound.2.2 instr next fetched).2⟩

theorem Good.safe (config : Config) (good : Good floor allowed config) :
    Safe floor allowed config :=
  Sound.safe config (good.sound config)

def Faulting (config : Config) : Prop :=
  config.fault = false ∧ ∃ instr next,
    code config.machine.cs config.machine.ip = some (instr, next) ∧
      config.machine.faults instr = true

/-- The image in memory, but for the three variables. -/
def Intact (memory : Memory) : Prop :=
  ∀ index < 512, (index < 0x1b7 ∨ 0x1bc ≤ index) → memory (0x7c00 + index) = imageByte index

theorem Intact.of_agree {memory memory' : Memory} (intact : Intact memory)
    (agree : ∀ address, 0x7c00 ≤ address → address < 0x7e00 →
      (address < 0x7db7 ∨ 0x7dbc ≤ address) → memory' address = memory address) :
    Intact memory' := by
  intro index bound outside
  rw [agree (0x7c00 + index) (by omega) (by omega) (by omega)]
  exact intact index bound outside

structure Ready (config : Config) : Prop where
  fault : config.fault = false
  cs : config.machine.cs = 0#16
  ds : config.machine.ds = 0#16
  ss : config.machine.ss = 0#16
  intact : Intact config.machine.memory

/-- A word pushed at `depth` below the stack pointer stays in the stack. -/
theorem stack_slot {floor : Nat} {sp : Word} (depth : Word) (room : floor + depth.toNat ≤ sp.toNat)
    (positive : 2 ≤ depth.toNat) (below : sp.toNat ≤ 0x7c00) :
    (Footprint floor (sp - depth).toNat ∧ Footprint floor (sp - depth + 1#16).toNat) ∧
      floor ≤ (sp - depth).toNat ∧ (sp - depth).toNat ≤ 0x7c00 := by
  simp only [Footprint]
  bv_omega

end BootSector.Assertion
