import BootSector.Bios
import Mathlib.Logic.Function.Iterate

/-!
# Machine code

The encoding of the instruction forms, as the processor reads it: an opcode
table, `ModR/M` operands with one base register at most, segment overrides and
the operand-size prefix before `ADD ESP` and `SUB ESP`. A processor that
fetches from memory executes what `decode` makes of the bytes at `CS:IP`.
-/

namespace BootSector.MachineCode

open RealMode Bios

section Decoders

abbrev Decoder (Result : Type) := StateT (List Byte) Option Result

variable {Result Other : Type}

def nextByte : Decoder Byte := fun bytes =>
  match bytes with
  | [] => none
  | byte :: rest => some (byte, rest)

def ofOption (result : Option Result) : Decoder Result := fun bytes => result.map (·, bytes)

def nextWord : Decoder Word := do
  let low ← nextByte
  let high ← nextByte
  pure (wordOf high low)

def nextSigned : Decoder Word := do
  let byte ← nextByte
  pure (byte.signExtend 16)

/-- What follows the bytes taken has no say in the result. -/
def Local (decoder : Decoder Result) : Prop :=
  ∀ bytes result rest, decoder bytes = some (result, rest) →
    ∀ more, decoder (bytes ++ more) = some (result, rest ++ more)

namespace Local

theorem pure (result : Result) : Local (Pure.pure result : Decoder Result) := by
  rintro bytes _ _ ⟨⟩ more
  rfl

theorem ofOption (result : Option Result) : Local (ofOption result) := by
  intro bytes value rest taken more
  cases result with
  | none => cases taken
  | some same =>
      cases taken
      rfl

theorem nextByte : Local nextByte := by
  intro bytes result rest taken more
  cases bytes with
  | nil => cases taken
  | cons byte bytes =>
      cases taken
      rfl

theorem bind {decoder : Decoder Result} {continue_ : Result → Decoder Other} (first : Local decoder)
    (second : ∀ result, Local (continue_ result)) : Local (decoder >>= continue_) := by
  intro bytes result rest taken more
  obtain ⟨⟨middle, left⟩, taken, taken'⟩ := Option.bind_eq_some_iff.mp taken
  exact Option.bind_eq_some_iff.mpr
    ⟨(middle, left ++ more), first _ _ _ taken more, second _ _ _ _ taken' more⟩

theorem nextWord : Local nextWord :=
  nextByte.bind fun _ => nextByte.bind fun _ => pure _

theorem nextSigned : Local nextSigned := nextByte.bind fun _ => pure _

theorem ite {condition : Prop} [Decidable condition] {decoder decoder' : Decoder Result}
    (first : Local decoder) (second : Local decoder') :
    Local (if condition then decoder else decoder') := by
  split_ifs
  · exact first
  · exact second

end Local

end Decoders

section Operands

def reg8Of : Nat → Reg8
  | 0 => .al
  | 1 => .cl
  | 2 => .dl
  | 3 => .bl
  | 4 => .ah
  | 5 => .ch
  | 6 => .dh
  | _ => .bh

def reg16Of : Nat → Reg16
  | 0 => .ax
  | 1 => .cx
  | 2 => .dx
  | 3 => .bx
  | 4 => .sp
  | 5 => .bp
  | 6 => .si
  | _ => .di

def segmentOf : Nat → Option Segment
  | 0 => some .es
  | 1 => some .cs
  | 2 => some .ss
  | 3 => some .ds
  | _ => none

def aluOf : Nat → Option Alu
  | 0 => some .add
  | 4 => some .and
  | 5 => some .sub
  | 6 => some .xor
  | 7 => some .cmp
  | _ => none

def baseOf : Nat → Option Reg16
  | 4 => some .si
  | 5 => some .di
  | 6 => some .bp
  | 7 => some .bx
  | _ => none

/-- `BP` goes with the stack segment, unless a prefix says otherwise. -/
def addressOf (override : Option Segment) (base : Option Reg16) (displacement : Word) : Address :=
  ⟨override.getD (if base = some .bp then .ss else .ds), base, displacement⟩

inductive Operand where
  | reg (index : Nat)
  | mem (address : Address)

def Operand.loc8 : Operand → Loc8
  | reg index => .reg (reg8Of index)
  | mem address => .mem address

def Operand.loc16 : Operand → Loc16
  | reg index => .reg (reg16Of index)
  | mem address => .mem address

def nextDisplacement (mode : Nat) : Decoder Word :=
  if mode = 0 then pure 0 else if mode = 1 then nextSigned else nextWord

def nextOperand (override : Option Segment) (mode rm : Nat) : Decoder Operand :=
  if mode = 3 then pure (.reg rm)
  else if mode = 0 ∧ rm = 6 then do
    let displacement ← nextWord
    pure (.mem (addressOf override none displacement))
  else do
    let base ← ofOption (baseOf rm)
    let displacement ← nextDisplacement mode
    pure (.mem (addressOf override (some base) displacement))

/-- `ModR/M`: the middle field, and the operand of the other two. -/
def nextModRM (override : Option Segment) : Decoder (Nat × Operand) := do
  let byte ← nextByte
  let operand ← nextOperand override (byte.toNat / 64) (byte.toNat % 8)
  pure (byte.toNat / 8 % 8, operand)

theorem next_displacement_local (mode : Nat) : Local (nextDisplacement mode) :=
  Local.ite (Local.pure _) (Local.ite Local.nextSigned Local.nextWord)

theorem next_operand_local (override : Option Segment) (mode rm : Nat) :
    Local (nextOperand override mode rm) := by
  refine Local.ite (Local.pure _) (Local.ite ?_ ?_)
  · exact Local.nextWord.bind fun _ => Local.pure _
  · exact (Local.ofOption _).bind fun _ => (next_displacement_local mode).bind fun _ =>
      Local.pure _

theorem next_mod_rm_local (override : Option Segment) : Local (nextModRM override) :=
  Local.nextByte.bind fun _ => (next_operand_local _ _ _).bind fun _ => Local.pure _

end Operands

section Opcodes

/-- What follows an opcode, and what the instruction is then. -/
inductive Form where
  | plain (instr : Instr)
  | byte (make : Byte → Option Instr)
  | word (make : Word → Instr)
  | short (make : Word → Instr)
  | near (make : Word → Instr)
  | far (make : Word → Word → Instr)
  | modRM (make : Nat → Operand → Option Instr)
  | modRMByte (make : Nat → Operand → Byte → Option Instr)
  | modRMWord (make : Nat → Operand → Word → Option Instr)

/-- The rest of an instruction, which may depend on the address after it. -/
def Form.decode (override : Option Segment) : Form → Decoder (Word → Instr)
  | plain instr => pure fun _ => instr
  | byte make => do
      let value ← nextByte
      let instr ← ofOption (make value)
      pure fun _ => instr
  | word make => do
      let value ← nextWord
      pure fun _ => make value
  | short make => do
      let distance ← nextSigned
      pure fun next => make (next + distance)
  | near make => do
      let distance ← nextWord
      pure fun next => make (next + distance)
  | far make => do
      let offset ← nextWord
      let segment ← nextWord
      pure fun _ => make segment offset
  | modRM make => do
      let (reg, operand) ← nextModRM override
      let instr ← ofOption (make reg operand)
      pure fun _ => instr
  | modRMByte make => do
      let (reg, operand) ← nextModRM override
      let value ← nextByte
      let instr ← ofOption (make reg operand value)
      pure fun _ => instr
  | modRMWord make => do
      let (reg, operand) ← nextModRM override
      let value ← nextWord
      let instr ← ofOption (make reg operand value)
      pure fun _ => instr

def aluForm (op : Alu) : Nat → Option Form
  | 0 => some (.modRM fun reg rm => some (.alu8 op rm.loc8 (.loc (.reg (reg8Of reg)))))
  | 1 => some (.modRM fun reg rm => some (.alu16 op rm.loc16 (.loc (.reg (reg16Of reg)))))
  | 2 => some (.modRM fun reg rm => some (.alu8 op (.reg (reg8Of reg)) (.loc rm.loc8)))
  | 3 => some (.modRM fun reg rm => some (.alu16 op (.reg (reg16Of reg)) (.loc rm.loc16)))
  | 4 => some (.byte fun value => some (.alu8 op (.reg .al) (.imm value)))
  | 5 => some (.word fun value => .alu16 op (.reg .ax) (.imm value))
  | _ => none

def lowForm (opcode : Nat) : Option Form :=
  if opcode % 8 < 6 then (aluOf (opcode / 8)).bind fun op => aluForm op (opcode % 8)
  else (segmentOf (opcode / 8)).bind fun segment =>
    if opcode % 8 = 6 then some (.plain (.push (.seg segment)))
    else if segment = .cs then none
    else some (.plain (.pop (.seg segment)))

def registerForm (opcode : Nat) : Option Form :=
  match opcode / 8 with
  | 0x08 => some (.plain (.inc16 (.reg (reg16Of (opcode % 8)))))
  | 0x09 => some (.plain (.dec16 (.reg (reg16Of (opcode % 8)))))
  | 0x0a => some (.plain (.push (.reg (reg16Of (opcode % 8)))))
  | 0x0b => some (.plain (.pop (.reg (reg16Of (opcode % 8)))))
  | 0x16 => some (.byte fun value => some (.mov8 (.reg (reg8Of (opcode % 8))) (.imm value)))
  | 0x17 => some (.word fun value => .mov16 (.reg (reg16Of (opcode % 8))) (.imm value))
  | _ => none

def form (override : Option Segment) (opcode : Nat) : Option Form :=
  match opcode with
  | 0x72 => some (.short .jc)
  | 0x74 => some (.short .jz)
  | 0x75 => some (.short .jnz)
  | 0x80 => some (.modRMByte fun reg rm value =>
      (aluOf reg).map fun op => .alu8 op rm.loc8 (.imm value))
  | 0x81 => some (.modRMWord fun reg rm value =>
      (aluOf reg).map fun op => .alu16 op rm.loc16 (.imm value))
  | 0x83 => some (.modRMByte fun reg rm value =>
      (aluOf reg).map fun op => .alu16 op rm.loc16 (.imm (value.signExtend 16)))
  | 0x88 => some (.modRM fun reg rm => some (.mov8 rm.loc8 (.loc (.reg (reg8Of reg)))))
  | 0x89 => some (.modRM fun reg rm => some (.mov16 rm.loc16 (.loc (.reg (reg16Of reg)))))
  | 0x8a => some (.modRM fun reg rm => some (.mov8 (.reg (reg8Of reg)) (.loc rm.loc8)))
  | 0x8b => some (.modRM fun reg rm => some (.mov16 (.reg (reg16Of reg)) (.loc rm.loc16)))
  | 0x8c => some (.modRM fun reg rm =>
      (segmentOf reg).map fun segment => .mov16 rm.loc16 (.loc (.seg segment)))
  | 0x8e => some (.modRM fun reg rm => (segmentOf reg).bind fun segment =>
      if segment = .cs then none else some (.mov16 (.seg segment) (.loc rm.loc16)))
  | 0x90 => some (.plain .nop)
  | 0xa0 => some (.word fun offset =>
      .mov8 (.reg .al) (.loc (.mem (addressOf override none offset))))
  | 0xa1 => some (.word fun offset =>
      .mov16 (.reg .ax) (.loc (.mem (addressOf override none offset))))
  | 0xa2 => some (.word fun offset =>
      .mov8 (.mem (addressOf override none offset)) (.loc (.reg .al)))
  | 0xa3 => some (.word fun offset =>
      .mov16 (.mem (addressOf override none offset)) (.loc (.reg .ax)))
  | 0xac => if override = none then some (.plain .lodsb) else none
  | 0xc1 => some (.modRMByte fun reg rm count =>
      if reg = 5 then some (.shr16 rm.loc16 count.toNat) else none)
  | 0xc3 => some (.plain .ret)
  | 0xc6 => some (.modRMByte fun reg rm value =>
      if reg = 0 then some (.mov8 rm.loc8 (.imm value)) else none)
  | 0xc7 => some (.modRMWord fun reg rm value =>
      if reg = 0 then some (.mov16 rm.loc16 (.imm value)) else none)
  | 0xcd => some (.byte fun vector =>
      if vector = 0x10 then some .int10 else if vector = 0x13 then some .int13 else none)
  | 0xd0 => some (.modRM fun reg rm => if reg = 5 then some (.shr8 rm.loc8 1) else none)
  | 0xe8 => some (.near .call)
  | 0xe9 => some (.near .jmp)
  | 0xea => some (.far .jmpFar)
  | 0xeb => some (.short .jmp)
  | 0xf6 => some (.modRM fun reg rm => if reg = 6 then some (.div8 rm.loc8) else none)
  | 0xf7 => some (.modRM fun reg rm =>
      if reg = 4 then some (.mul16 rm.loc16) else if reg = 6 then some (.div16 rm.loc16) else none)
  | 0xfc => some (.plain .cld)
  | 0xfe => some (.modRM fun reg rm => if reg = 0 then some (.inc8 rm.loc8) else none)
  | 0xff => some (.modRM fun reg rm =>
      if reg = 0 then some (.inc16 rm.loc16)
      else if reg = 1 then some (.dec16 rm.loc16)
      else if reg = 6 then some (.push rm.loc16)
      else none)
  | other => if other < 0x40 then lowForm other else registerForm other

def wideForm (opcode : Nat) : Option Form :=
  if opcode = 0x83 then some (.modRMByte fun reg rm value =>
    match rm, reg with
    | .reg 4, 0 => some (.addEsp (value.signExtend 32))
    | .reg 4, 5 => some (.subEsp (value.signExtend 32))
    | _, _ => none)
  else none

def overrideOf : Nat → Option Segment
  | 0x26 => some .es
  | 0x2e => some .cs
  | 0x36 => some .ss
  | 0x3e => some .ds
  | _ => none

def decodeForm (override : Option Segment) (known : Option Form) : Decoder (Word → Instr) := do
  let rest ← ofOption known
  rest.decode override

/-- One instruction, with one prefix at most. -/
def decode : Decoder (Word → Instr) := do
  let first ← nextByte
  if (overrideOf first.toNat).isSome then do
    let opcode ← nextByte
    decodeForm (overrideOf first.toNat) (form (overrideOf first.toNat) opcode.toNat)
  else if first.toNat = 0x66 then do
    let opcode ← nextByte
    decodeForm none (wideForm opcode.toNat)
  else decodeForm none (form none first.toNat)

theorem Form.decode_local (override : Option Segment) (rest : Form) :
    Local (rest.decode override) := by
  cases rest with
  | plain instr => exact Local.pure _
  | byte make =>
      exact Local.nextByte.bind fun _ => (Local.ofOption _).bind fun _ => Local.pure _
  | word make => exact Local.nextWord.bind fun _ => Local.pure _
  | short make => exact Local.nextSigned.bind fun _ => Local.pure _
  | near make => exact Local.nextWord.bind fun _ => Local.pure _
  | far make => exact Local.nextWord.bind fun _ => Local.nextWord.bind fun _ => Local.pure _
  | modRM make =>
      exact (next_mod_rm_local _).bind fun _ => (Local.ofOption _).bind fun _ => Local.pure _
  | modRMByte make =>
      exact (next_mod_rm_local _).bind fun _ =>
        Local.nextByte.bind fun _ => (Local.ofOption _).bind fun _ => Local.pure _
  | modRMWord make =>
      exact (next_mod_rm_local _).bind fun _ =>
        Local.nextWord.bind fun _ => (Local.ofOption _).bind fun _ => Local.pure _

theorem decode_form_local (override : Option Segment) (known : Option Form) :
    Local (decodeForm override known) :=
  (Local.ofOption _).bind fun _ => Form.decode_local _ _

theorem decode_local : Local decode := by
  refine Local.nextByte.bind fun first => Local.ite ?_ (Local.ite ?_ ?_)
  · exact Local.nextByte.bind fun _ => decode_form_local _ _
  · exact Local.nextByte.bind fun _ => decode_form_local _ _
  · exact decode_form_local _ _

end Opcodes

section Fetching

/-- The bytes from `CS:IP` on; no form is longer than eight. -/
def window (memory : Memory) (cs ip : Word) : List Byte :=
  (List.range 8).map fun index => memory (physical cs (ip + BitVec.ofNat 16 index))

def fetch (memory : Memory) : Code := fun cs ip =>
  (decode (window memory cs ip)).map fun (make, rest) =>
    let next := ip + BitVec.ofNat 16 (8 - rest.length)
    (make next, next)

def run (bios : Services) (config : Config) : Config :=
  step (fetch config.machine.memory) bios config

theorem fetch_of_bytes {memory : Memory} {cs ip next : Word} {bytes : List Byte}
    {make : Word → Instr} (decoded : decode bytes = some (make, [])) (short : bytes.length ≤ 8)
    (after : ip + BitVec.ofNat 16 bytes.length = next)
    (there : ∀ index (bound : index < bytes.length),
      memory (physical cs (ip + BitVec.ofNat 16 index)) = bytes[index]) :
    fetch memory cs ip = some (make next, next) := by
  have front : (window memory cs ip).take bytes.length = bytes := by
    apply List.ext_getElem
    · simp [window, short]
    · intro index bound bound'
      simp [window, there index bound']
  have split : window memory cs ip = bytes ++ (window memory cs ip).drop bytes.length := by
    rw [← front, List.length_take]
    simp [window, short]
  have read : decode (window memory cs ip) =
      some (make, (window memory cs ip).drop bytes.length) := by
    conv_lhs => rw [split]
    exact decode_local _ _ _ decoded _
  have taken : 8 - ((window memory cs ip).drop bytes.length).length = bytes.length := by
    simp [window]
    omega
  rw [fetch, read, Option.map_some]
  simp only [taken, after]

end Fetching

section Listings

variable {listing : Code} {bios : Services} {config : Config} {memory : Memory} {cs ip : Word}
  {bytes : Nat → Byte} {first last : Nat}

def bytesOf (bytes : Nat → Byte) (ip next : Word) : List Byte :=
  (List.range (next - ip).toNat).map fun index => bytes (ip.toNat + index)

/-- The bytes up to the next line are the encoding of the line at `ip`, and lie
between two offsets. -/
def encodes (listing : Code) (bytes : Nat → Byte) (first last : Nat) (cs ip : Word) : Bool :=
  match listing cs ip with
  | none => false
  | some (instr, next) =>
      decide (first ≤ ip.toNat ∧ ip.toNat < next.toNat ∧ next.toNat ≤ last ∧
        next.toNat ≤ ip.toNat + 8) &&
        match decode (bytesOf bytes ip next) with
        | some (make, []) => make next == instr
        | _ => false

theorem fetch_line (check : encodes listing bytes first last cs ip = true)
    (there : ∀ offset : Word, first ≤ offset.toNat → offset.toNat < last →
      memory (physical cs offset) = bytes offset.toNat) :
    fetch memory cs ip = listing cs ip := by
  simp only [encodes] at check
  cases known : listing cs ip with
  | none => simp [known] at check
  | some pair =>
      obtain ⟨instr, next⟩ := pair
      simp only [known, Bool.and_eq_true, decide_eq_true_eq] at check
      obtain ⟨⟨lower, less, upper, short⟩, decoded⟩ := check
      have size : (next - ip).toNat = next.toNat - ip.toNat := by bv_omega
      have length : (bytesOf bytes ip next).length = next.toNat - ip.toNat := by
        rw [bytesOf, List.length_map, List.length_range, size]
      cases read : decode (bytesOf bytes ip next) with
      | none => simp [read] at decoded
      | some result =>
          obtain ⟨make, rest⟩ := result
          cases rest with
          | cons byte rest => simp [read] at decoded
          | nil =>
              rw [read] at decoded
              obtain rfl : make next = instr := by simpa using decoded
              refine fetch_of_bytes read (by omega) ?_ ?_
              · rw [length]
                bv_omega
              · intro index bound
                have within : index < next.toNat - ip.toNat := length ▸ bound
                have address : (ip + BitVec.ofNat 16 index).toNat = ip.toNat + index := by bv_omega
                rw [there _ (by omega) (by omega), address]
                simp [bytesOf]

theorem run_line (there : fetch config.machine.memory config.machine.cs config.machine.ip =
    listing config.machine.cs config.machine.ip) : run bios config = step listing bios config := by
  rw [run, step, step, there]

/-- While the lines are in memory, the machine code takes their steps. -/
theorem run_follows (count : Nat) (there : ∀ earlier < count,
    fetch ((step listing bios)^[earlier] config).machine.memory
        ((step listing bios)^[earlier] config).machine.cs
        ((step listing bios)^[earlier] config).machine.ip =
      listing ((step listing bios)^[earlier] config).machine.cs
        ((step listing bios)^[earlier] config).machine.ip) :
    (run bios)^[count] config = (step listing bios)^[count] config := by
  induction count with
  | zero => rfl
  | succ count ih =>
      have before := ih fun earlier less => there earlier (by omega)
      rw [Function.iterate_succ_apply', Function.iterate_succ_apply', before]
      exact run_line (there count (by omega))

end Listings

end BootSector.MachineCode
