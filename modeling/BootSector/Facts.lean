import BootSector.Bios
import BootSector.Execution

/-!
# Facts at the lines of a program

A note says what registers and bytes of memory hold whenever control comes to
a line. Notes are checked against the listing: what an instruction makes of the
facts of its line has to cover the facts noted where control goes next. Checked
notes hold along every run, whatever the BIOS leaves in the rest of the machine.
-/

namespace BootSector.Facts

open RealMode Bios Execution

inductive Fact where
  | reg8 (register : Reg8) (value : Byte)
  | reg16 (register : Reg16) (value : Word)
  | seg (register : Segment) (value : Word)
  | mem (address : Nat) (value : Byte)
  deriving DecidableEq, Repr

def Fact.Holds (machine : Machine) : Fact → Prop
  | .reg8 register value => machine.reg8 register = value
  | .reg16 register value => machine.reg16 register = value
  | .seg register value => machine.segment register = value
  | .mem address value => machine.memory address = value

def Hold (machine : Machine) (facts : List Fact) : Prop := ∀ fact ∈ facts, fact.Holds machine

def Knows {Value : Type} (known : Option Value) (value : Value) : Prop :=
  ∀ guess, known = some guess → guess = value

namespace Knows

variable {Left Right Value : Type}

theorem exactly (value : Value) : Knows (some value) value := by
  rintro guess ⟨⟩
  rfl

theorem map {known : Option Left} {value : Left} (knows : Knows known value)
    (apply : Left → Value) : Knows (known.map apply) (apply value) := by
  intro guess found
  obtain ⟨left, same, rfl⟩ := Option.map_eq_some_iff.mp found
  rw [knows left same]

theorem both {left : Option Left} {right : Option Right} {value : Left} {value' : Right}
    (knows : Knows left value) (knows' : Knows right value') (apply : Left → Right → Value) :
    Knows (left.bind fun first => right.map (apply first)) (apply value value') := by
  intro guess found
  obtain ⟨first, same, rest⟩ := Option.bind_eq_some_iff.mp found
  obtain ⟨second, same', rfl⟩ := Option.map_eq_some_iff.mp rest
  rw [knows first same, knows' second same']

end Knows

section Lookups

variable (facts : List Fact)

/-- The two bytes of `AX`, `BX`, `CX` and `DX`; the facts about these four are
about their bytes. -/
def halves : Reg16 → Option (Reg8 × Reg8)
  | .ax => some (.ah, .al)
  | .bx => some (.bh, .bl)
  | .cx => some (.ch, .cl)
  | .dx => some (.dh, .dl)
  | _ => none

def reg8? (register : Reg8) : Option Byte :=
  facts.findSome? fun
    | .reg8 other value => if other = register then some value else none
    | _ => none

def reg16? (register : Reg16) : Option Word :=
  match halves register with
  | some (high, low) => (reg8? facts high).bind fun first => (reg8? facts low).map (wordOf first)
  | none =>
      facts.findSome? fun
        | .reg16 other value => if other = register then some value else none
        | _ => none

def seg? (register : Segment) : Option Word :=
  facts.findSome? fun
    | .seg other value => if other = register then some value else none
    | _ => none

def mem? (address : Nat) : Option Byte :=
  facts.findSome? fun
    | .mem other value => if other = address then some value else none
    | _ => none

def place? (address : Address) : Option (Word × Word) :=
  (seg? facts address.segment).bind fun segment =>
    (address.base.elim (some 0) (reg16? facts)).map fun base =>
      (segment, base + address.displacement)

def word? (segment offset : Word) : Option Word :=
  (mem? facts (physical segment (offset + 1))).bind fun high =>
    (mem? facts (physical segment offset)).map (wordOf high)

def load8? : Loc8 → Option Byte
  | .reg register => reg8? facts register
  | .mem address => (place? facts address).bind fun place => mem? facts (physical place.1 place.2)

def load16? : Loc16 → Option Word
  | .reg register => reg16? facts register
  | .seg register => seg? facts register
  | .mem address => (place? facts address).bind fun place => word? facts place.1 place.2

def value8? : Src8 → Option Byte
  | .loc location => load8? facts location
  | .imm value => some value

def value16? : Src16 → Option Word
  | .loc location => load16? facts location
  | .imm value => some value

def stack? : Option (Word × Word) :=
  (seg? facts .ss).bind fun segment => (reg16? facts .sp).map fun offset => (segment, offset)

def top? : Option Word := (stack? facts).bind fun stack => word? facts stack.1 stack.2

variable {facts} {machine : Machine}

theorem found_known {Value : Type} {pick : Fact → Option Value} {value : Value}
    (hold : Hold machine facts)
    (picked : ∀ fact guess, pick fact = some guess → fact.Holds machine → guess = value) :
    Knows (facts.findSome? pick) value := by
  intro guess found
  obtain ⟨fact, listed, same⟩ := List.exists_of_findSome?_eq_some found
  exact picked fact guess same (hold fact listed)

theorem reg8_known (hold : Hold machine facts) (register : Reg8) :
    Knows (reg8? facts register) (machine.reg8 register) := by
  refine found_known hold ?_
  rintro (⟨other, value⟩ | ⟨other, value⟩ | ⟨other, value⟩ | ⟨address, value⟩) guess same holds <;>
    simp only [Option.ite_none_right_eq_some, Option.some.injEq, reduceCtorEq] at same
  obtain ⟨rfl, rfl⟩ := same
  exact holds.symm

theorem seg_known (hold : Hold machine facts) (register : Segment) :
    Knows (seg? facts register) (machine.segment register) := by
  refine found_known hold ?_
  rintro (⟨other, value⟩ | ⟨other, value⟩ | ⟨other, value⟩ | ⟨address, value⟩) guess same holds <;>
    simp only [Option.ite_none_right_eq_some, Option.some.injEq, reduceCtorEq] at same
  obtain ⟨rfl, rfl⟩ := same
  exact holds.symm

theorem mem_known (hold : Hold machine facts) (address : Nat) :
    Knows (mem? facts address) (machine.memory address) := by
  refine found_known hold ?_
  rintro (⟨other, value⟩ | ⟨other, value⟩ | ⟨other, value⟩ | ⟨other, value⟩) guess same holds <;>
    simp only [Option.ite_none_right_eq_some, Option.some.injEq, reduceCtorEq] at same
  obtain ⟨rfl, rfl⟩ := same
  exact holds.symm

theorem halves_word {register : Reg16} {high low : Reg8}
    (split : halves register = some (high, low)) :
    machine.reg16 register = wordOf (machine.reg8 high) (machine.reg8 low) := by
  cases register <;> simp only [halves, Option.some.injEq, Prod.mk.injEq, reduceCtorEq] at split
  all_goals
    obtain ⟨rfl, rfl⟩ := split
    exact (word_of_high_low _).symm

theorem reg16_known (hold : Hold machine facts) (register : Reg16) :
    Knows (reg16? facts register) (machine.reg16 register) := by
  cases split : halves register with
  | some pair =>
      simp only [reg16?, split]
      rw [halves_word split]
      exact (reg8_known hold pair.1).both (reg8_known hold pair.2) wordOf
  | none =>
      simp only [reg16?, split]
      refine found_known hold ?_
      rintro (⟨other, value⟩ | ⟨other, value⟩ | ⟨other, value⟩ | ⟨other, value⟩) guess same
        holds <;> simp only [Option.ite_none_right_eq_some, Option.some.injEq, reduceCtorEq] at same
      obtain ⟨rfl, rfl⟩ := same
      exact holds.symm

theorem place_known (hold : Hold machine facts) (address : Address) :
    Knows (place? facts address) (machine.segment address.segment, machine.offset address) := by
  obtain ⟨segment, base, displacement⟩ := address
  have offset : Knows (base.elim (some 0) (reg16? facts)) (base.elim 0 machine.reg16) := by
    cases base with
    | none => exact Knows.exactly 0
    | some register => exact reg16_known hold register
  exact (seg_known hold segment).both offset fun segment base => (segment, base + displacement)

theorem word_known (hold : Hold machine facts) (segment offset : Word) :
    Knows (word? facts segment offset) (machine.memory.word segment offset) :=
  (mem_known hold _).both (mem_known hold _) wordOf

theorem at_known {Place Value : Type} {known : Option Place} {place : Place}
    {found : Place → Option Value} {value : Value} (knows : Knows known place)
    (read : Knows (found place) value) : Knows (known.bind found) value := by
  intro guess same
  obtain ⟨other, here, there⟩ := Option.bind_eq_some_iff.mp same
  obtain rfl := knows other here
  exact read guess there

theorem load8_known (hold : Hold machine facts) (location : Loc8) :
    Knows (load8? facts location) (machine.load8 location) := by
  cases location with
  | reg register => exact reg8_known hold register
  | mem address => exact at_known (place_known hold address) (mem_known hold _)

theorem load16_known (hold : Hold machine facts) (location : Loc16) :
    Knows (load16? facts location) (machine.load16 location) := by
  cases location with
  | reg register => exact reg16_known hold register
  | seg register => exact seg_known hold register
  | mem address => exact at_known (place_known hold address) (word_known hold _ _)

theorem value8_known (hold : Hold machine facts) (source : Src8) :
    Knows (value8? facts source) (machine.value8 source) := by
  cases source with
  | loc location => exact load8_known hold location
  | imm value => exact Knows.exactly value

theorem value16_known (hold : Hold machine facts) (source : Src16) :
    Knows (value16? facts source) (machine.value16 source) := by
  cases source with
  | loc location => exact load16_known hold location
  | imm value => exact Knows.exactly value

theorem stack_known (hold : Hold machine facts) :
    Knows (stack? facts) (machine.ss, machine.sp) :=
  (seg_known hold .ss).both (reg16_known hold .sp) Prod.mk

theorem top_known (hold : Hold machine facts) : Knows (top? facts) machine.top :=
  at_known (stack_known hold) (word_known hold _ _)

end Lookups

section Stores

def Fact.apart8 (register : Reg8) : Fact → Bool
  | .reg8 other _ => other ≠ register
  | .reg16 other _ => halves other = none
  | _ => true

def Fact.apart16 (register : Reg16) : Fact → Bool
  | .reg8 other _ =>
      (halves register).elim true fun pair => decide (other ≠ pair.1 ∧ other ≠ pair.2)
  | .reg16 other _ => other ≠ register
  | _ => true

def Fact.apartSeg (register : Segment) : Fact → Bool
  | .seg other _ => other ≠ register
  | _ => true

def Fact.apartMem (addresses : List Nat) : Fact → Bool
  | .mem address _ => address ∉ addresses
  | _ => true

def Fact.inRegister : Fact → Bool
  | .mem _ _ => false
  | _ => true

def learn16 (register : Reg16) (value : Word) : List Fact :=
  match halves register with
  | some (high, low) => [.reg8 high (highByte value), .reg8 low (lowByte value)]
  | none => [.reg16 register value]

def learnWord (segment offset value : Word) : List Fact :=
  [.mem (physical segment (offset + 1)) (highByte value),
    .mem (physical segment offset) (lowByte value)]

variable (facts : List Fact)

def store8 (location : Loc8) (known : Option Byte) : List Fact :=
  match location with
  | .reg register =>
      (known.elim [] fun value => [.reg8 register value]) ++ facts.filter (·.apart8 register)
  | .mem address =>
      match place? facts address with
      | some (segment, offset) =>
          (known.elim [] fun value => [.mem (physical segment offset) value]) ++
            facts.filter (·.apartMem [physical segment offset])
      | none => facts.filter (·.inRegister)

def storeWord (place : Option (Word × Word)) (known : Option Word) : List Fact :=
  match place with
  | some (segment, offset) =>
      known.elim [] (learnWord segment offset) ++
        facts.filter (·.apartMem [physical segment offset, physical segment (offset + 1)])
  | none => facts.filter (·.inRegister)

def store16 (location : Loc16) (known : Option Word) : List Fact :=
  match location with
  | .reg register => known.elim [] (learn16 register) ++ facts.filter (·.apart16 register)
  | .seg register =>
      (known.elim [] fun value => [.seg register value]) ++ facts.filter (·.apartSeg register)
  | .mem address => storeWord facts (place? facts address) known

variable {facts} {machine : Machine}

theorem hold_append {more : List Fact} (hold : Hold machine more) (hold' : Hold machine facts) :
    Hold machine (more ++ facts) := by
  intro fact listed
  rcases List.mem_append.mp listed with new | old
  · exact hold fact new
  · exact hold' fact old

theorem hold_filter {later : Machine} {apart : Fact → Bool} (hold : Hold machine facts)
    (kept : ∀ fact, apart fact = true → fact.Holds machine → fact.Holds later) :
    Hold later (facts.filter apart) := by
  intro fact listed
  obtain ⟨old, keeps⟩ := List.mem_filter.mp listed
  exact kept fact keeps (hold fact old)

theorem hold_learned {Value : Type} {known : Option Value} {value : Value}
    {learn : Value → List Fact} (knows : Knows known value) (learned : Hold machine (learn value)) :
    Hold machine (known.elim [] learn) := by
  cases known with
  | none => exact fun _ listed => absurd listed (List.not_mem_nil)
  | some guess =>
      obtain rfl := knows guess rfl
      exact learned

theorem hold_single {fact : Fact} (holds : fact.Holds machine) : Hold machine [fact] := by
  intro other listed
  rw [List.mem_singleton.mp listed]
  exact holds

theorem hold_pair {fact fact' : Fact} (holds : fact.Holds machine) (holds' : fact'.Holds machine) :
    Hold machine [fact, fact'] :=
  hold_append (hold_single holds) (hold_single holds')

theorem apart8_holds (register : Reg8) (value : Byte) (fact : Fact)
    (apart : fact.apart8 register = true) (holds : fact.Holds machine) :
    fact.Holds (machine.setReg8 register value) := by
  cases fact with
  | reg8 other known =>
      simp only [Fact.apart8, decide_eq_true_eq] at apart
      cases register <;> cases other <;> first
        | exact absurd rfl apart
        | simpa [Fact.Holds, Machine.reg8, Machine.setReg8] using holds
  | reg16 other known =>
      simp only [Fact.apart8, decide_eq_true_eq] at apart
      cases register <;> cases other <;> first
        | exact holds
        | simp [halves] at apart
  | seg other known =>
      cases register <;> cases other <;> exact holds
  | mem address known =>
      cases register <;> exact holds

theorem set_reg8_same (register : Reg8) (value : Byte) :
    (machine.setReg8 register value).reg8 register = value := by
  cases register <;> simp [Machine.reg8, Machine.setReg8]

theorem apart16_holds (register : Reg16) (value : Word) (fact : Fact)
    (apart : fact.apart16 register = true) (holds : fact.Holds machine) :
    fact.Holds (machine.setReg16 register value) := by
  cases fact with
  | reg8 other known =>
      cases register <;> cases other <;> first
        | exact holds
        | simp [Fact.apart16, halves] at apart
  | reg16 other known =>
      simp only [Fact.apart16, decide_eq_true_eq] at apart
      cases register <;> cases other <;> first
        | exact absurd rfl apart
        | exact holds
  | seg other known =>
      cases register <;> cases other <;> exact holds
  | mem address known =>
      cases register <;> exact holds

theorem learn16_holds (register : Reg16) (value : Word) :
    Hold (machine.setReg16 register value) (learn16 register value) := by
  cases register <;> first
    | exact hold_pair rfl rfl
    | exact hold_single rfl

theorem apart_seg_holds (register : Segment) (value : Word) (fact : Fact)
    (apart : fact.apartSeg register = true) (holds : fact.Holds machine) :
    fact.Holds (machine.setSegment register value) := by
  cases fact with
  | seg other known =>
      simp only [Fact.apartSeg, decide_eq_true_eq] at apart
      cases register <;> cases other <;> first
        | exact absurd rfl apart
        | exact holds
  | reg8 other known => cases register <;> cases other <;> exact holds
  | reg16 other known => cases register <;> cases other <;> exact holds
  | mem address known => cases register <;> exact holds

theorem apart_mem_holds {memory : Memory} {addresses : List Nat}
    (same : ∀ address, address ∉ addresses → memory address = machine.memory address)
    (fact : Fact) (apart : fact.apartMem addresses = true) (holds : fact.Holds machine) :
    fact.Holds { machine with memory := memory } := by
  cases fact with
  | mem address known =>
      simp only [Fact.apartMem, decide_eq_true_eq] at apart
      exact (same address apart).trans holds
  | reg8 other known => cases other <;> exact holds
  | reg16 other known => cases other <;> exact holds
  | seg other known => cases other <;> exact holds

theorem in_register_holds {memory : Memory} (fact : Fact) (apart : fact.inRegister = true)
    (holds : fact.Holds machine) : fact.Holds { machine with memory := memory } := by
  cases fact with
  | mem address known => simp [Fact.inRegister] at apart
  | reg8 other known => cases other <;> exact holds
  | reg16 other known => cases other <;> exact holds
  | seg other known => cases other <;> exact holds

theorem store8_holds (hold : Hold machine facts) (location : Loc8) {known : Option Byte}
    {value : Byte} (knows : Knows known value) :
    Hold (machine.store8 location value) (store8 facts location known) := by
  cases location with
  | reg register =>
      refine hold_append (hold_learned knows (hold_single (set_reg8_same register value))) ?_
      exact hold_filter hold (apart8_holds register value)
  | mem address =>
      have place := place_known hold address
      simp only [store8, Machine.store8]
      cases found : place? facts address with
      | none => exact hold_filter hold in_register_holds
      | some pair =>
          obtain ⟨segment, offset⟩ := pair
          obtain ⟨rfl, rfl⟩ := Prod.mk.inj (place _ found)
          refine hold_append (hold_learned knows (hold_single ?_)) ?_
          · exact (Memory.set_byte_apply ..).trans (if_pos rfl)
          · refine hold_filter hold (apart_mem_holds ?_)
            intro other outside
            rw [Memory.set_byte_apply, if_neg (fun same => outside (List.mem_singleton.mpr same))]

theorem store_word_holds (hold : Hold machine facts) {place : Option (Word × Word)}
    {segment offset : Word} (there : Knows place (segment, offset)) {known : Option Word}
    {value : Word} (knows : Knows known value) :
    Hold { machine with memory := machine.memory.setWord segment offset value }
      (storeWord facts place known) := by
  cases place with
  | none => exact hold_filter hold in_register_holds
  | some pair =>
      obtain rfl := there pair rfl
      refine hold_append (hold_learned knows (hold_pair ?_ ?_)) ?_
      · exact (Memory.set_word_apply ..).trans (if_pos rfl)
      · have apart : physical segment offset ≠ physical segment (offset + 1) := by
          simp only [physical]
          bv_omega
        exact (Memory.set_word_apply ..).trans ((if_neg apart).trans (if_pos rfl))
      · refine hold_filter hold (apart_mem_holds ?_)
        intro other outside
        simp only [List.mem_cons, List.not_mem_nil, or_false, not_or] at outside
        rw [Memory.set_word_apply, if_neg outside.2, if_neg outside.1]

theorem store16_holds (hold : Hold machine facts) (location : Loc16) {known : Option Word}
    {value : Word} (knows : Knows known value) :
    Hold (machine.store16 location value) (store16 facts location known) := by
  cases location with
  | reg register =>
      refine hold_append (hold_learned knows (learn16_holds register value)) ?_
      exact hold_filter hold (apart16_holds register value)
  | seg register =>
      refine hold_append (hold_learned knows (hold_single ?_)) ?_
      · cases register <;> rfl
      · exact hold_filter hold (apart_seg_holds register value)
  | mem address => exact store_word_holds hold (place_known hold address) knows

end Stores

section Lines

variable (facts : List Fact)

/-- `XOR` of an operand with itself is zero whatever it held. -/
def alu8? (op : Alu) (dst : Loc8) (src : Src8) : Option Byte :=
  if op = .xor ∧ src = .loc dst then some 0
  else (load8? facts dst).bind fun left => (value8? facts src).map (Machine.aluResult op left)

def alu16? (op : Alu) (dst : Loc16) (src : Src16) : Option Word :=
  if op = .xor ∧ src = .loc dst then some 0
  else (load16? facts dst).bind fun left => (value16? facts src).map (Machine.aluResult op left)

def shifted {width : Nat} (value : BitVec width) (count : Nat) : BitVec width := value >>> count

def moved (apply : Word → Word) : List Fact :=
  store16 facts (.reg .sp) ((reg16? facts .sp).map apply)

def pushed (known : Option Word) : List Fact :=
  storeWord (moved facts (· - 2)) (stack? (moved facts (· - 2))) known

def ownedMem (address : Nat) : Bool :=
  (stack? facts).elim false fun stack =>
    decide (physical stack.1 stack.2 ≤ address ∧ address < 0xa0000)

/-- A read writes nothing below this address. -/
def buffer? : Option Nat :=
  (seg? facts .es).map fun segment =>
    (reg16? facts .bx).elim (physical segment 0) (physical segment)

def serviceKeeps : Fact → Bool
  | .reg8 _ _ => false
  | .reg16 other _ => other = .sp
  | .seg _ _ => true
  | .mem address _ => ownedMem facts address

def readKeeps : Fact → Bool
  | .reg8 other _ => decide (other ≠ .al ∧ other ≠ .ah)
  | .reg16 other _ => other ≠ .ax
  | .seg _ _ => true
  | .mem address _ =>
      ownedMem facts address && (buffer? facts).elim false fun start => decide (address < start)

/-- What a line makes of the facts; `next` is the address after it. -/
def transfer (next : Word) : Instr → List Fact
  | .mov8 dst src => store8 facts dst (value8? facts src)
  | .mov16 dst src => store16 facts dst (value16? facts src)
  | .alu8 op dst src => if op = .cmp then facts else store8 facts dst (alu8? facts op dst src)
  | .alu16 op dst src => if op = .cmp then facts else store16 facts dst (alu16? facts op dst src)
  | .inc8 dst => store8 facts dst ((load8? facts dst).map (· + 1))
  | .inc16 dst => store16 facts dst ((load16? facts dst).map (· + 1))
  | .dec16 dst => store16 facts dst ((load16? facts dst).map (· - 1))
  | .shr8 dst count => store8 facts dst ((load8? facts dst).map (shifted · count))
  | .shr16 dst count => store16 facts dst ((load16? facts dst).map (shifted · count))
  | .mul16 _ | .div16 _ => (facts.filter (·.apart16 .ax)).filter (·.apart16 .dx)
  | .div8 _ => facts.filter (·.apart16 .ax)
  | .addEsp amount => moved facts (· + amount.setWidth 16)
  | .subEsp amount => moved facts (· - amount.setWidth 16)
  | .push src => pushed facts (load16? facts src)
  | .call _ => pushed facts (some next)
  | .pop dst => store16 (moved facts (· + 2)) dst (top? facts)
  | .ret => moved facts (· + 2)
  | .lodsb => (facts.filter (·.apart8 .al)).filter (·.apart16 .si)
  | .jmpFar segment _ => store16 facts (.seg .cs) (some segment)
  | .int10 => facts.filter (serviceKeeps facts)
  | .int13 =>
      match reg8? facts .ah with
      | some 2 => facts.filter (readKeeps facts)
      | some _ => facts.filter (serviceKeeps facts)
      | none => (facts.filter (serviceKeeps facts)).filter (readKeeps facts)
  | .cld | .nop | .jmp _ | .jz _ | .jnz _ | .jc _ => facts

variable {facts} {machine : Machine} {next : Word}

/-- Nothing is noted about the flags, `IP` and the upper half of `ESP`. -/
theorem hold_control (hold : Hold machine facts) (ip espHigh : Word) (carry zero direction : Bool) :
    Hold { machine with
      ip := ip, espHigh := espHigh, carry := carry, zero := zero, direction := direction }
      facts := by
  intro fact listed
  have holds := hold fact listed
  cases fact with
  | reg8 register value => cases register <;> exact holds
  | reg16 register value => cases register <;> exact holds
  | seg register value => cases register <;> exact holds
  | mem address value => exact holds

theorem alu8_known (hold : Hold machine facts) (op : Alu) (dst : Loc8) (src : Src8) :
    Knows (alu8? facts op dst src)
      (Machine.aluResult op (machine.load8 dst) (machine.value8 src)) := by
  simp only [alu8?]
  split_ifs with zeroes
  · obtain ⟨rfl, rfl⟩ := zeroes
    intro guess same
    simp only [Option.some.injEq] at same
    rw [← same, Machine.value8, Machine.aluResult, BitVec.xor_self]
    rfl
  · exact (load8_known hold dst).both (value8_known hold src) (Machine.aluResult op)

theorem alu16_known (hold : Hold machine facts) (op : Alu) (dst : Loc16) (src : Src16) :
    Knows (alu16? facts op dst src)
      (Machine.aluResult op (machine.load16 dst) (machine.value16 src)) := by
  simp only [alu16?]
  split_ifs with zeroes
  · obtain ⟨rfl, rfl⟩ := zeroes
    intro guess same
    simp only [Option.some.injEq] at same
    rw [← same, Machine.value16, Machine.aluResult, BitVec.xor_self]
    rfl
  · exact (load16_known hold dst).both (value16_known hold src) (Machine.aluResult op)

theorem moved_holds (hold : Hold machine facts) (apply : Word → Word) :
    Hold { machine with sp := apply machine.sp } (moved facts apply) :=
  store16_holds hold (.reg .sp) ((reg16_known hold .sp).map apply)

theorem pushed_holds (hold : Hold machine facts) {known : Option Word} {value : Word}
    (knows : Knows known value) : Hold (machine.push value) (pushed facts known) := by
  have lowered := moved_holds hold (· - 2)
  exact store_word_holds lowered (stack_known lowered) knows

theorem other_regs_hold (hold : Hold machine facts) (ax dx : Word) :
    Hold { machine with ax := ax, dx := dx }
      ((facts.filter (·.apart16 .ax)).filter (·.apart16 .dx)) := by
  have first : Hold (machine.setReg16 .ax ax) _ := hold_filter hold (apart16_holds .ax ax)
  exact hold_filter first (apart16_holds .dx dx)

/-- An instruction other than `INT` makes of the facts what `transfer` says. -/
theorem execute_holds (hold : Hold machine facts) (instr : Instr)
    (plain : instr.interrupts = false) :
    Hold (machine.execute next instr) (transfer facts next instr) := by
  cases instr with
  | mov8 dst src =>
      exact hold_control (store8_holds hold dst (value8_known hold src)) next _ _ _ _
  | mov16 dst src =>
      exact hold_control (store16_holds hold dst (value16_known hold src)) next _ _ _ _
  | alu8 op dst src =>
      have flagged : Hold (machine.withFlags op (machine.load8 dst) (machine.value8 src)) facts :=
        hold_control hold _ _ _ _ _
      simp only [transfer, Machine.execute]
      split_ifs with compares
      · exact hold_control hold next _ _ _ _
      · have known := alu8_known hold op dst src
        exact hold_control (store8_holds flagged dst known) next _ _ _ _
  | alu16 op dst src =>
      have flagged : Hold (machine.withFlags op (machine.load16 dst) (machine.value16 src)) facts :=
        hold_control hold _ _ _ _ _
      simp only [transfer, Machine.execute]
      split_ifs with compares
      · exact hold_control hold next _ _ _ _
      · have known := alu16_known hold op dst src
        exact hold_control (store16_holds flagged dst known) next _ _ _ _
  | inc8 dst =>
      have known := (load8_known hold dst).map (· + 1)
      exact hold_control (store8_holds hold dst known) next _ _ _ _
  | inc16 dst =>
      have known := (load16_known hold dst).map (· + 1)
      exact hold_control (store16_holds hold dst known) next _ _ _ _
  | dec16 dst =>
      have known := (load16_known hold dst).map (· - 1)
      exact hold_control (store16_holds hold dst known) next _ _ _ _
  | shr8 dst count =>
      have known := (load8_known hold dst).map (shifted · count)
      exact hold_control (store8_holds hold dst known) next _ _ _ _
  | shr16 dst count =>
      have known := (load16_known hold dst).map (shifted · count)
      exact hold_control (store16_holds hold dst known) next _ _ _ _
  | mul16 src => exact hold_control (other_regs_hold hold _ _) next _ _ _ _
  | div16 src => exact hold_control (other_regs_hold hold _ _) next _ _ _ _
  | div8 src =>
      have divided : ∀ ax, Hold (machine.setReg16 .ax ax) (facts.filter (·.apart16 .ax)) :=
        fun ax => hold_filter hold (apart16_holds .ax ax)
      exact hold_control (divided _) next _ _ _ _
  | addEsp amount =>
      have raised := moved_holds hold (· + amount.setWidth 16)
      simp only [transfer, Machine.execute, esp_add_low]
      exact hold_control raised next _ _ _ _
  | subEsp amount =>
      have lowered := moved_holds hold (· - amount.setWidth 16)
      simp only [transfer, Machine.execute, esp_sub_low]
      exact hold_control lowered next _ _ _ _
  | push src => exact hold_control (pushed_holds hold (load16_known hold src)) next _ _ _ _
  | call target => exact hold_control (pushed_holds hold (Knows.exactly next)) target _ _ _ _
  | pop dst =>
      have raised := moved_holds hold (· + 2)
      exact hold_control (store16_holds raised dst (top_known hold)) next _ _ _ _
  | ret => exact hold_control (moved_holds hold (· + 2)) machine.top _ _ _ _
  | lodsb =>
      have loaded : ∀ value, Hold (machine.setReg8 .al value) (facts.filter (·.apart8 .al)) :=
        fun value => hold_filter hold (apart8_holds .al value)
      have stepped : ∀ value offset, Hold ((machine.setReg8 .al value).setReg16 .si offset)
          ((facts.filter (·.apart8 .al)).filter (·.apart16 .si)) :=
        fun value offset => hold_filter (loaded value) (apart16_holds .si offset)
      exact hold_control (stepped (machine.memory (physical machine.ds machine.si))
        (if machine.direction then machine.si - 1 else machine.si + 1)) next _ _ _ _
  | jmpFar segment offset =>
      have jumped := store16_holds hold (.seg .cs) (Knows.exactly segment)
      exact hold_control jumped offset _ _ _ _
  | cld => exact hold_control hold next _ _ _ _
  | nop => exact hold_control hold next _ _ _ _
  | jmp target => exact hold_control hold target _ _ _ _
  | jz target => exact hold_control hold _ _ _ _ _
  | jnz target => exact hold_control hold _ _ _ _ _
  | jc target => exact hold_control hold _ _ _ _ _
  | int10 => cases plain
  | int13 => cases plain

theorem owned_mem_owned (hold : Hold machine facts) {address : Nat}
    (owned : ownedMem facts address = true) : Owned machine address := by
  have stack := stack_known hold
  cases known : stack? facts with
  | none => simp [ownedMem, known] at owned
  | some pair =>
      obtain rfl := stack pair known
      simp only [ownedMem, known, Option.elim_some, decide_eq_true_eq] at owned
      exact owned

theorem buffer_below (hold : Hold machine facts) {start address : Nat}
    (known : buffer? facts = some start) (below : address < start) :
    ¬machine.request.Covers address := by
  obtain ⟨segment, found, rfl⟩ := Option.map_eq_some_iff.mp known
  have es : segment = machine.es := seg_known hold .es segment found
  rintro ⟨lower, -⟩
  simp only [Request.start, Machine.request, ← es] at lower
  cases offset : reg16? facts .bx with
  | none =>
      simp only [offset, Option.elim_none, physical, BitVec.ofNat_eq_ofNat, BitVec.toNat_ofNat,
        Nat.zero_mod, Nat.add_zero] at below lower
      omega
  | some value =>
      have bx : value = machine.bx := reg16_known hold .bx value offset
      simp only [offset, Option.elim_some, bx] at below
      omega

theorem service_holds (hold : Hold machine facts) {after : Machine} (keeps : Keeps machine after)
    (next : Word) (fact : Fact) (kept : serviceKeeps facts fact = true)
    (holds : fact.Holds machine) : fact.Holds (resume machine after next) := by
  cases fact with
  | reg8 other value => cases kept
  | reg16 other value =>
      obtain rfl : other = .sp := by simpa [serviceKeeps] using kept
      exact keeps.sp.trans holds
  | seg other value =>
      cases other with
      | cs => exact holds
      | ds => exact keeps.ds.trans holds
      | es => exact keeps.es.trans holds
      | ss => exact keeps.ss.trans holds
  | mem address value =>
      exact (keeps.memory address (owned_mem_owned hold kept)).trans holds

theorem read_holds (hold : Hold machine facts) {after : Machine} (keeps : ReadKeeps machine after)
    (next : Word) (fact : Fact) (kept : readKeeps facts fact = true)
    (holds : fact.Holds machine) : fact.Holds (resume machine after next) := by
  cases fact with
  | reg8 other value =>
      have apart : other ≠ .al ∧ other ≠ .ah := by simpa [readKeeps] using kept
      cases other with
      | al => exact absurd rfl apart.1
      | ah => exact absurd rfl apart.2
      | bl => exact (congrArg lowByte keeps.bx).trans holds
      | bh => exact (congrArg highByte keeps.bx).trans holds
      | cl => exact (congrArg lowByte keeps.cx).trans holds
      | ch => exact (congrArg highByte keeps.cx).trans holds
      | dl => exact (congrArg lowByte keeps.dx).trans holds
      | dh => exact (congrArg highByte keeps.dx).trans holds
  | reg16 other value =>
      have apart : other ≠ .ax := by simpa [readKeeps] using kept
      cases other with
      | ax => exact absurd rfl apart
      | bx => exact keeps.bx.trans holds
      | cx => exact keeps.cx.trans holds
      | dx => exact keeps.dx.trans holds
      | si => exact keeps.si.trans holds
      | di => exact keeps.di.trans holds
      | bp => exact keeps.bp.trans holds
      | sp => exact keeps.sp.trans holds
  | seg other value =>
      cases other with
      | cs => exact holds
      | ds => exact keeps.ds.trans holds
      | es => exact keeps.es.trans holds
      | ss => exact keeps.ss.trans holds
  | mem address value =>
      simp only [readKeeps, Bool.and_eq_true] at kept
      obtain ⟨owned, below⟩ := kept
      cases known : buffer? facts with
      | none => simp [known] at below
      | some start =>
          have outside : ¬machine.request.Covers address := by
            refine buffer_below hold known ?_
            simpa [known] using below
          exact (keeps.memory address (owned_mem_owned hold owned) outside).trans holds

theorem video_holds {bios : Services} {disk : Nat → Byte} (honours : Honours bios disk) (log : Log)
    (hold : Hold machine facts) :
    Hold (resume machine (bios.video log machine) next) (transfer facts next .int10) :=
  hold_filter hold (service_holds hold (honours.video log machine) next)

theorem disk_holds {bios : Services} {disk : Nat → Byte} (honours : Honours bios disk) (log : Log)
    (hold : Hold machine facts) :
    Hold (resume machine (bios.disk log machine) next) (transfer facts next .int13) := by
  have service : highByte machine.ax = 2 → ∀ fact, readKeeps facts fact = true →
      fact.Holds machine → fact.Holds (resume machine (bios.disk log machine) next) :=
    fun function => read_holds hold
      (honours.read log machine (by simpa [Machine.isRead] using function)) next
  have other : highByte machine.ax ≠ 2 → ∀ fact, serviceKeeps facts fact = true →
      fact.Holds machine → fact.Holds (resume machine (bios.disk log machine) next) :=
    fun function => service_holds hold
      (honours.other log machine (by simpa [Machine.isRead] using function)) next
  simp only [transfer]
  split
  next known => exact hold_filter hold (service (reg8_known hold .ah 2 known).symm)
  next function differs known =>
    refine hold_filter hold (other ?_)
    intro same
    exact differs ((reg8_known hold .ah _ known).trans same)
  next =>
    by_cases function : highByte machine.ax = 2
    · intro fact listed
      obtain ⟨first, kept⟩ := List.mem_filter.mp listed
      exact service function fact kept (hold fact (List.mem_filter.mp first).1)
    · intro fact listed
      obtain ⟨first, -⟩ := List.mem_filter.mp listed
      obtain ⟨old, kept⟩ := List.mem_filter.mp first
      exact other function fact kept (hold fact old)

end Lines

section Notes

structure Frame where
  target : Word
  back : Word
  sp : Word
  deriving DecidableEq, Repr

/-- A run watched from outside: the calls that have not returned, latest
first. -/
structure Observed where
  config : Config
  frames : List Frame

def framesAfter (machine : Machine) (next : Word) (frames : List Frame) : Instr → List Frame
  | .call target => ⟨target, next, machine.sp - 2⟩ :: frames
  | .ret => frames.tail
  | _ => frames

def observe (code : Code) (bios : Services) (observed : Observed) : Observed where
  config := step code bios observed.config
  frames :=
    if observed.config.fault then observed.frames
    else match code observed.config.machine.cs observed.config.machine.ip with
      | none => observed.frames
      | some (instr, next) => framesAfter observed.config.machine next observed.frames instr

theorem observe_iterate (code : Code) (bios : Services) (observed : Observed) (count : Nat) :
    ((observe code bios)^[count] observed).config = (step code bios)^[count] observed.config := by
  induction count with
  | zero => rfl
  | succ count ih =>
      rw [Function.iterate_succ_apply', Function.iterate_succ_apply', ← ih]
      rfl

/-- Every `RET` takes the word the latest open `CALL` pushed, from where it
pushed it. -/
def Returns (code : Code) (observed : Observed) : Prop :=
  ∀ next, code observed.config.machine.cs observed.config.machine.ip = some (.ret, next) →
    ∃ frame ∈ observed.frames.head?, frame.back = observed.config.machine.top ∧
      frame.sp = observed.config.machine.sp

/-- What holds whenever control comes to `ip` in the segment noted for `CS`. -/
structure Note where
  ip : Word
  facts : List Fact
  frames : List Frame

def Note.At (note : Note) (observed : Observed) : Prop :=
  observed.config.machine.ip = note.ip ∧ Hold observed.config.machine note.facts ∧
    observed.frames = note.frames

/-- Where control goes from a line, if the facts tell. -/
def targets (facts : List Fact) (next : Word) : Instr → Option (List Word)
  | .jmp target | .call target | .jmpFar _ target => some [target]
  | .jz target | .jnz target | .jc target => some [target, next]
  | .ret => (top? facts).map fun target => [target]
  | _ => some [next]

/-- The open calls after a line, where a `RET` is seen to match the latest. -/
def leaves (facts : List Fact) (next : Word) (frames : List Frame) : Instr → Option (List Frame)
  | .call target => (reg16? facts .sp).map fun sp => ⟨target, next, sp - 2⟩ :: frames
  | .ret =>
      frames.head?.bind fun frame =>
        if top? facts = some frame.back ∧ reg16? facts .sp = some frame.sp then some frames.tail
        else none
  | _ => some frames

def covered (notes : List Note) (facts : List Fact) (frames : List Frame) (ip : Word) : Bool :=
  notes.any fun note =>
    note.ip == ip && note.facts.all facts.contains && decide (note.frames = frames)

def Note.checked (code : Code) (notes : List Note) (note : Note) : Bool :=
  (seg? note.facts .cs).elim false fun cs =>
    match code cs note.ip with
    | none => true
    | some (instr, next) =>
        (leaves note.facts next note.frames instr).elim false fun frames =>
          (targets note.facts next instr).elim false
            (·.all (covered notes (transfer note.facts next instr) frames))

/-- The notes along the lines from one on, up to a jump or a line in `stops`. -/
def trace (code : Code) (stops : List Word) : Nat → Note → List Note
  | 0, _ => []
  | fuel + 1, note =>
      note :: (seg? note.facts .cs).elim [] fun cs =>
        match code cs note.ip with
        | none | some (.jmp _, _) | some (.call _, _) | some (.jmpFar _ _, _) | some (.ret, _) => []
        | some (instr, next) =>
            if next ∈ stops then []
            else trace code stops fuel ⟨next, transfer note.facts next instr, note.frames⟩

def Noted (notes : List Note) (observed : Observed) : Prop := ∃ note ∈ notes, note.At observed

variable {code : Code} {notes : List Note} {bios : Services} {disk : Nat → Byte}
  {observed : Observed} {config : Config} {facts : List Fact} {frames : List Frame}
  {machine : Machine} {next : Word}

theorem covered_noted {ip : Word} (cover : covered notes facts frames ip = true)
    (there : config.machine.ip = ip) (hold : Hold config.machine facts) :
    Noted notes ⟨config, frames⟩ := by
  obtain ⟨note, listed, fits⟩ := List.any_eq_true.mp cover
  simp only [Bool.and_eq_true, beq_iff_eq, List.all_eq_true, List.contains_iff_mem,
    decide_eq_true_eq] at fits
  obtain ⟨⟨same, known⟩, open_⟩ := fits
  exact ⟨note, listed, there.trans same.symm, fun fact asked => hold fact (known fact asked),
    open_.symm⟩

theorem execute_targets (hold : Hold machine facts) {instr : Instr} {places : List Word}
    (known : targets facts next instr = some places) :
    (machine.execute next instr).ip ∈ places := by
  cases instr with
  | jz target =>
      obtain rfl := Option.some.inj known
      simp only [Machine.execute]
      split_ifs <;> simp
  | jnz target =>
      obtain rfl := Option.some.inj known
      simp only [Machine.execute]
      split_ifs <;> simp
  | jc target =>
      obtain rfl := Option.some.inj known
      simp only [Machine.execute]
      split_ifs <;> simp
  | ret =>
      obtain ⟨target, found, rfl⟩ := Option.map_eq_some_iff.mp known
      exact List.mem_singleton.mpr (top_known hold target found).symm
  | _ =>
      obtain rfl := Option.some.inj known
      exact List.mem_singleton.mpr rfl

theorem leaves_call (hold : Hold machine facts) {target : Word} {later : List Frame}
    (known : leaves facts next frames (.call target) = some later) :
    framesAfter machine next frames (.call target) = later := by
  obtain ⟨sp, found, rfl⟩ := Option.map_eq_some_iff.mp known
  rw [reg16_known hold .sp sp found]
  rfl

theorem leaves_ret (hold : Hold machine facts) {later : List Frame}
    (known : leaves facts next frames .ret = some later) :
    (∃ frame ∈ frames.head?, frame.back = machine.top ∧ frame.sp = machine.sp) ∧
      frames.tail = later := by
  obtain ⟨frame, latest, rest⟩ := Option.bind_eq_some_iff.mp known
  split_ifs at rest with pushed
  exact ⟨⟨frame, latest, top_known hold _ pushed.1, reg16_known hold .sp _ pushed.2⟩,
    Option.some.inj rest⟩

theorem leaves_after (hold : Hold machine facts) {instr : Instr} {later : List Frame}
    (known : leaves facts next frames instr = some later) :
    framesAfter machine next frames instr = later := by
  cases instr with
  | call target => exact leaves_call hold known
  | ret => exact (leaves_ret hold known).2
  | _ => exact Option.some.inj known

theorem checked_line {note : Note} (check : note.checked code notes = true)
    (noted : note.At observed) {instr : Instr}
    (fetched : code observed.config.machine.cs observed.config.machine.ip = some (instr, next)) :
    ∃ later places, leaves note.facts next note.frames instr = some later ∧
      targets note.facts next instr = some places ∧
      ∀ ip ∈ places, covered notes (transfer note.facts next instr) later ip = true := by
  obtain ⟨place, hold, -⟩ := noted
  simp only [Note.checked] at check
  cases segment : seg? note.facts .cs with
  | none => simp [segment] at check
  | some cs =>
      have same : cs = observed.config.machine.cs := seg_known hold .cs cs segment
      rw [segment, Option.elim_some, same, ← place, fetched] at check
      cases frames : leaves note.facts next note.frames instr with
      | none => simp [frames] at check
      | some later =>
          cases known : targets note.facts next instr with
          | none => simp [frames, known] at check
          | some places =>
              simp only [frames, known, Option.elim_some, List.all_eq_true] at check
              exact ⟨later, places, rfl, rfl, check⟩

/-- One step leads from a note to a note. -/
theorem step_noted (honours : Honours bios disk)
    (checked : notes.all (Note.checked code notes) = true) (noted : Noted notes observed) :
    Noted notes (observe code bios observed) := by
  obtain ⟨config, frames⟩ := observed
  cases fault : config.fault with
  | true => simpa [observe, fault, step_faulted fault] using noted
  | false =>
      cases fetched : code config.machine.cs config.machine.ip with
      | none => simpa [observe, fetched, step_outside fetched] using noted
      | some line =>
          obtain ⟨instr, next⟩ := line
          obtain ⟨note, listed, here⟩ := noted
          have check := List.all_eq_true.mp checked note listed
          obtain ⟨later, places, leaving, known, cover⟩ := checked_line check here fetched
          obtain ⟨place, hold, rfl⟩ := here
          have after := leaves_after hold leaving
          have target := cover _ (execute_targets hold known)
          simp only [observe, step, fault, fetched, perform, after]
          cases faults : config.machine.faults instr with
          | true =>
              cases instr <;> first
                | exact ⟨note, listed, place, hold, (Option.some.inj leaving).symm⟩
                | exact absurd faults Bool.false_ne_true
          | false =>
              cases instr with
              | int10 => exact covered_noted target rfl (video_holds honours _ hold)
              | int13 => exact covered_noted target rfl (disk_holds honours _ hold)
              | _ => exact covered_noted target rfl (execute_holds hold _ rfl)

/-- Checked notes hold along every run that begins at one. -/
theorem run_noted (honours : Honours bios disk)
    (checked : notes.all (Note.checked code notes) = true) (noted : Noted notes observed) :
    Forever (observe code bios) (Noted notes) observed :=
  Forever.of_preserved (fun _ => step_noted honours checked) noted

/-- Where the notes are checked, calls and returns match. -/
theorem returns_of_noted (checked : notes.all (Note.checked code notes) = true)
    (noted : Noted notes observed) : Returns code observed := by
  intro next fetched
  obtain ⟨note, listed, here⟩ := noted
  obtain ⟨later, places, leaving, -⟩ :=
    checked_line (List.all_eq_true.mp checked note listed) here fetched
  obtain ⟨-, hold, frames⟩ := here
  rw [frames]
  exact (leaves_ret hold leaving).1

end Notes

end BootSector.Facts
