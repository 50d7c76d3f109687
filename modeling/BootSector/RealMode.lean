import Mathlib.Data.BitVec
import Mathlib.Logic.Function.Basic
import Mathlib.Tactic.Common

/-!
# A real-mode 8086 subset

Registers, memory and the instruction forms a small boot program uses. Words
are 16 bits, memory is byte addressed by the 20-bit physical address, and
`SUB ESP` works on the full 32-bit stack pointer as the operand-size prefix
makes it do. Arithmetic flags that the processor leaves undefined keep their
old value here; nothing below reads them.
-/

namespace BootSector.RealMode

abbrev Byte := BitVec 8
abbrev Word := BitVec 16

def lowByte (word : Word) : Byte := word.setWidth 8

def highByte (word : Word) : Byte := (word >>> 8).setWidth 8

def wordOf (high low : Byte) : Word := high ++ low

theorem low_byte_to_nat (word : Word) : (lowByte word).toNat = word.toNat % 256 := by
  simp [lowByte]

theorem high_byte_to_nat (word : Word) : (highByte word).toNat = word.toNat / 256 := by
  have bound := word.isLt
  simp [highByte, Nat.shiftRight_eq_div_pow]
  omega

theorem word_of_to_nat (high low : Byte) :
    (wordOf high low).toNat = 256 * high.toNat + low.toNat := by
  have bound := low.isLt
  rw [wordOf, BitVec.toNat_append, ← Nat.shiftLeft_add_eq_or_of_lt bound, Nat.shiftLeft_eq]
  omega

@[simp] theorem low_byte_word_of (high low : Byte) : lowByte (wordOf high low) = low := by
  have bound := low.isLt
  apply BitVec.eq_of_toNat_eq
  rw [low_byte_to_nat, word_of_to_nat]
  omega

@[simp] theorem high_byte_word_of (high low : Byte) : highByte (wordOf high low) = high := by
  have bound := low.isLt
  apply BitVec.eq_of_toNat_eq
  rw [high_byte_to_nat, word_of_to_nat]
  omega

@[simp] theorem word_of_high_low (word : Word) :
    wordOf (highByte word) (lowByte word) = word := by
  apply BitVec.eq_of_toNat_eq
  rw [word_of_to_nat, high_byte_to_nat, low_byte_to_nat]
  omega

theorem esp_to_nat (high low : Word) :
    (high ++ low : BitVec 32).toNat = 65536 * high.toNat + low.toNat := by
  have bound := low.isLt
  rw [BitVec.toNat_append, ← Nat.shiftLeft_add_eq_or_of_lt bound, Nat.shiftLeft_eq]
  omega

/-- `ADD ESP` acts on `SP` alone as 16-bit arithmetic. -/
@[simp] theorem esp_add_low (high low : Word) (amount : BitVec 32) :
    (high ++ low + amount : BitVec 32).setWidth 16 = low + amount.setWidth 16 := by
  apply BitVec.eq_of_toNat_eq
  simp only [BitVec.toNat_setWidth, BitVec.toNat_add, esp_to_nat]
  omega

/-- So does `SUB ESP`. -/
@[simp] theorem esp_sub_low (high low : Word) (amount : BitVec 32) :
    (high ++ low - amount : BitVec 32).setWidth 16 = low - amount.setWidth 16 := by
  have small := amount.isLt
  apply BitVec.eq_of_toNat_eq
  simp only [BitVec.toNat_setWidth, BitVec.toNat_sub, esp_to_nat]
  omega

/-- Segment and offset name one byte of physical memory. -/
def physical (segment offset : Word) : Nat := 16 * segment.toNat + offset.toNat

@[simp] theorem physical_zero (offset : Word) : physical 0#16 offset = offset.toNat := by
  simp [physical]

abbrev Memory := Nat → Byte

def Memory.word (memory : Memory) (segment offset : Word) : Word :=
  wordOf (memory (physical segment (offset + 1))) (memory (physical segment offset))

def Memory.setByte (memory : Memory) (segment offset : Word) (value : Byte) : Memory :=
  Function.update memory (physical segment offset) value

def Memory.setWord (memory : Memory) (segment offset : Word) (value : Word) : Memory :=
  (memory.setByte segment offset (lowByte value)).setByte segment (offset + 1) (highByte value)

theorem Memory.set_byte_apply (memory : Memory) (segment offset : Word) (value : Byte)
    (address : Nat) : memory.setByte segment offset value address =
      if address = physical segment offset then value else memory address :=
  Function.update_apply ..

theorem Memory.set_word_apply (memory : Memory) (segment offset : Word) (value : Word)
    (address : Nat) : memory.setWord segment offset value address =
      if address = physical segment (offset + 1) then highByte value
      else if address = physical segment offset then lowByte value else memory address := by
  rw [Memory.setWord, Memory.set_byte_apply, Memory.set_byte_apply]

theorem Memory.set_word_above {memory : Memory} {offset value : Word} {address : Nat}
    (above : offset.toNat + 1 < address) :
    memory.setWord 0#16 offset value address = memory address := by
  rw [Memory.set_word_apply, if_neg, if_neg] <;> simp only [physical_zero] <;> bv_omega

theorem Memory.word_congr {memory memory' : Memory} {segment offset : Word}
    (low : memory' (physical segment offset) = memory (physical segment offset))
    (high : memory' (physical segment (offset + 1)) = memory (physical segment (offset + 1))) :
    memory'.word segment offset = memory.word segment offset := by
  rw [Memory.word, Memory.word, low, high]

theorem Memory.word_at (memory : Memory) {address : Nat} (bound : address + 1 < 65536) :
    memory.word 0#16 (BitVec.ofNat 16 address) =
      wordOf (memory (address + 1)) (memory address) := by
  have low : (BitVec.ofNat 16 address).toNat = address := by
    rw [BitVec.toNat_ofNat]
    omega
  have high : (BitVec.ofNat 16 address + 1).toNat = address + 1 := by
    rw [BitVec.toNat_add, low, show (1 : Word).toNat = 1 by rfl]
    omega
  rw [Memory.word, physical_zero, physical_zero, low, high]

@[simp] theorem Memory.word_set_word (memory : Memory) (segment offset value : Word) :
    (memory.setWord segment offset value).word segment offset = value := by
  have apart : physical segment offset ≠ physical segment (offset + 1) := by
    simp only [physical]
    bv_omega
  rw [Memory.word, Memory.set_word_apply, Memory.set_word_apply, if_pos rfl, if_neg apart,
    if_pos rfl]
  exact word_of_high_low value

theorem physical_injective {segment offset offset' : Word}
    (same : physical segment offset = physical segment offset') : offset = offset' := by
  apply BitVec.eq_of_toNat_eq
  simp only [physical] at same
  omega

theorem Memory.word_set_word_apart {memory : Memory} {segment place other : Word} (value : Word)
    (apart : other ≠ place) (above : other + 1 ≠ place) (below : other ≠ place + 1) :
    (memory.setWord segment place value).word segment other = memory.word segment other := by
  have apart' : other + 1 ≠ place + 1 := fun same => apart (add_right_cancel same)
  apply Memory.word_congr
  · rw [Memory.set_word_apply, if_neg (fun same => below (physical_injective same)),
      if_neg (fun same => apart (physical_injective same))]
  · rw [Memory.set_word_apply, if_neg (fun same => apart' (physical_injective same)),
      if_neg (fun same => above (physical_injective same))]

theorem Memory.word_set_byte_apart {memory : Memory} {segment place other : Word} (value : Byte)
    (apart : other ≠ place) (above : other + 1 ≠ place) :
    (memory.setByte segment place value).word segment other = memory.word segment other := by
  apply Memory.word_congr
  · rw [Memory.set_byte_apply, if_neg (fun same => apart (physical_injective same))]
  · rw [Memory.set_byte_apply, if_neg (fun same => above (physical_injective same))]

inductive Reg8 where
  | al | ah | bl | bh | cl | ch | dl | dh
  deriving DecidableEq, Repr

inductive Reg16 where
  | ax | bx | cx | dx | si | di | bp | sp
  deriving DecidableEq, Repr

inductive Segment where
  | cs | ds | es | ss
  deriving DecidableEq, Repr

/-- `[segment: base + displacement]`; no base for an absolute operand. -/
structure Address where
  segment : Segment
  base : Option Reg16
  displacement : Word
  deriving DecidableEq, Repr

structure Machine where
  ax : Word
  bx : Word
  cx : Word
  dx : Word
  si : Word
  di : Word
  bp : Word
  sp : Word
  espHigh : Word
  cs : Word
  ds : Word
  es : Word
  ss : Word
  ip : Word
  carry : Bool
  zero : Bool
  direction : Bool
  memory : Memory

namespace Machine

def reg8 (machine : Machine) : Reg8 → Byte
  | .al => lowByte machine.ax
  | .ah => highByte machine.ax
  | .bl => lowByte machine.bx
  | .bh => highByte machine.bx
  | .cl => lowByte machine.cx
  | .ch => highByte machine.cx
  | .dl => lowByte machine.dx
  | .dh => highByte machine.dx

def setReg8 (machine : Machine) (register : Reg8) (value : Byte) : Machine :=
  match register with
  | .al => { machine with ax := wordOf (highByte machine.ax) value }
  | .ah => { machine with ax := wordOf value (lowByte machine.ax) }
  | .bl => { machine with bx := wordOf (highByte machine.bx) value }
  | .bh => { machine with bx := wordOf value (lowByte machine.bx) }
  | .cl => { machine with cx := wordOf (highByte machine.cx) value }
  | .ch => { machine with cx := wordOf value (lowByte machine.cx) }
  | .dl => { machine with dx := wordOf (highByte machine.dx) value }
  | .dh => { machine with dx := wordOf value (lowByte machine.dx) }

def reg16 (machine : Machine) : Reg16 → Word
  | .ax => machine.ax
  | .bx => machine.bx
  | .cx => machine.cx
  | .dx => machine.dx
  | .si => machine.si
  | .di => machine.di
  | .bp => machine.bp
  | .sp => machine.sp

def setReg16 (machine : Machine) (register : Reg16) (value : Word) : Machine :=
  match register with
  | .ax => { machine with ax := value }
  | .bx => { machine with bx := value }
  | .cx => { machine with cx := value }
  | .dx => { machine with dx := value }
  | .si => { machine with si := value }
  | .di => { machine with di := value }
  | .bp => { machine with bp := value }
  | .sp => { machine with sp := value }

def segment (machine : Machine) : Segment → Word
  | .cs => machine.cs
  | .ds => machine.ds
  | .es => machine.es
  | .ss => machine.ss

def setSegment (machine : Machine) (register : Segment) (value : Word) : Machine :=
  match register with
  | .cs => { machine with cs := value }
  | .ds => { machine with ds := value }
  | .es => { machine with es := value }
  | .ss => { machine with ss := value }

/-- Offset of a memory operand, computed modulo 65536. -/
def offset (machine : Machine) (address : Address) : Word :=
  (address.base.elim 0 machine.reg16) + address.displacement

end Machine

inductive Loc8 where
  | reg (register : Reg8)
  | mem (address : Address)
  deriving DecidableEq, Repr

inductive Loc16 where
  | reg (register : Reg16)
  | seg (register : Segment)
  | mem (address : Address)
  deriving DecidableEq, Repr

inductive Src8 where
  | loc (location : Loc8)
  | imm (value : Byte)
  deriving DecidableEq, Repr

inductive Src16 where
  | loc (location : Loc16)
  | imm (value : Word)
  deriving DecidableEq, Repr

namespace Machine

def load8 (machine : Machine) : Loc8 → Byte
  | .reg register => machine.reg8 register
  | .mem address =>
      machine.memory (physical (machine.segment address.segment) (machine.offset address))

def store8 (machine : Machine) (location : Loc8) (value : Byte) : Machine :=
  match location with
  | .reg register => machine.setReg8 register value
  | .mem address =>
      { machine with
        memory := machine.memory.setByte (machine.segment address.segment)
          (machine.offset address) value }

def load16 (machine : Machine) : Loc16 → Word
  | .reg register => machine.reg16 register
  | .seg register => machine.segment register
  | .mem address =>
      machine.memory.word (machine.segment address.segment) (machine.offset address)

def store16 (machine : Machine) (location : Loc16) (value : Word) : Machine :=
  match location with
  | .reg register => machine.setReg16 register value
  | .seg register => machine.setSegment register value
  | .mem address =>
      { machine with
        memory := machine.memory.setWord (machine.segment address.segment)
          (machine.offset address) value }

def value8 (machine : Machine) : Src8 → Byte
  | .loc location => machine.load8 location
  | .imm value => value

def value16 (machine : Machine) : Src16 → Word
  | .loc location => machine.load16 location
  | .imm value => value

def push (machine : Machine) (value : Word) : Machine :=
  { machine with
    sp := machine.sp - 2
    memory := machine.memory.setWord machine.ss (machine.sp - 2) value }

def top (machine : Machine) : Word := machine.memory.word machine.ss machine.sp

end Machine

inductive Alu where
  | add | sub | and | xor | cmp
  deriving DecidableEq, Repr

/-- The instruction forms of the boot program. Jump and call targets are
offsets in the code segment. -/
inductive Instr where
  | mov8 (dst : Loc8) (src : Src8)
  | mov16 (dst : Loc16) (src : Src16)
  | alu8 (op : Alu) (dst : Loc8) (src : Src8)
  | alu16 (op : Alu) (dst : Loc16) (src : Src16)
  | inc8 (dst : Loc8)
  | inc16 (dst : Loc16)
  | dec16 (dst : Loc16)
  | shr8 (dst : Loc8) (count : Nat)
  | shr16 (dst : Loc16) (count : Nat)
  | mul16 (src : Loc16)
  | div8 (src : Loc8)
  | div16 (src : Loc16)
  | addEsp (amount : BitVec 32)
  | subEsp (amount : BitVec 32)
  | push (src : Loc16)
  | pop (dst : Loc16)
  | lodsb
  | cld
  | nop
  | jmp (target : Word)
  | jz (target : Word)
  | jnz (target : Word)
  | jc (target : Word)
  | jmpFar (segment offset : Word)
  | call (target : Word)
  | ret
  | int10
  | int13
  deriving DecidableEq, Repr

def Instr.interrupts : Instr → Bool
  | .int10 | .int13 => true
  | _ => false

namespace Machine

def aluResult {width : Nat} (op : Alu) (left right : BitVec width) : BitVec width :=
  match op with
  | .add => left + right
  | .sub | .cmp => left - right
  | .and => left &&& right
  | .xor => left ^^^ right

def aluCarry {width : Nat} (op : Alu) (left right : BitVec width) : Bool :=
  match op with
  | .add => decide (2 ^ width ≤ left.toNat + right.toNat)
  | .sub | .cmp => decide (left.toNat < right.toNat)
  | .and | .xor => false

def withFlags {width : Nat} (machine : Machine) (op : Alu) (left right : BitVec width) : Machine :=
  { machine with
    carry := aluCarry op left right
    zero := aluResult op left right == 0 }

def dxax (machine : Machine) : Nat := 65536 * machine.dx.toNat + machine.ax.toNat

/-- `DIV` raises #DE on a zero divisor and on a quotient too wide for its
register. -/
def faults (machine : Machine) : Instr → Bool
  | .div8 src =>
      decide (machine.load8 src = 0 ∨ 256 ≤ machine.ax.toNat / (machine.load8 src).toNat)
  | .div16 src =>
      decide (machine.load16 src = 0 ∨ 65536 ≤ machine.dxax / (machine.load16 src).toNat)
  | _ => false

/-- One instruction other than `INT`; `next` is the address after it. -/
def execute (machine : Machine) (next : Word) : Instr → Machine
  | .mov8 dst src => { machine.store8 dst (machine.value8 src) with ip := next }
  | .mov16 dst src => { machine.store16 dst (machine.value16 src) with ip := next }
  | .alu8 op dst src =>
      let left := machine.load8 dst
      let right := machine.value8 src
      let flagged := machine.withFlags op left right
      { (if op = .cmp then flagged else flagged.store8 dst (aluResult op left right)) with
        ip := next }
  | .alu16 op dst src =>
      let left := machine.load16 dst
      let right := machine.value16 src
      let flagged := machine.withFlags op left right
      { (if op = .cmp then flagged else flagged.store16 dst (aluResult op left right)) with
        ip := next }
  | .inc8 dst =>
      let result := machine.load8 dst + 1
      { machine.store8 dst result with zero := result == 0, ip := next }
  | .inc16 dst =>
      let result := machine.load16 dst + 1
      { machine.store16 dst result with zero := result == 0, ip := next }
  | .dec16 dst =>
      let result := machine.load16 dst - 1
      { machine.store16 dst result with zero := result == 0, ip := next }
  | .shr8 dst count =>
      let value := machine.load8 dst
      let result := value >>> count
      { machine.store8 dst result with
        carry := value.getLsbD (count - 1), zero := result == 0, ip := next }
  | .shr16 dst count =>
      let value := machine.load16 dst
      let result := value >>> count
      { machine.store16 dst result with
        carry := value.getLsbD (count - 1), zero := result == 0, ip := next }
  | .mul16 src =>
      let product := machine.ax.toNat * (machine.load16 src).toNat
      { machine with
        ax := BitVec.ofNat 16 product
        dx := BitVec.ofNat 16 (product / 65536)
        carry := decide (65536 ≤ product)
        ip := next }
  | .div8 src =>
      let divisor := (machine.load8 src).toNat
      { machine with
        ax := wordOf (BitVec.ofNat 8 (machine.ax.toNat % divisor))
          (BitVec.ofNat 8 (machine.ax.toNat / divisor))
        ip := next }
  | .div16 src =>
      let divisor := (machine.load16 src).toNat
      { machine with
        ax := BitVec.ofNat 16 (machine.dxax / divisor)
        dx := BitVec.ofNat 16 (machine.dxax % divisor)
        ip := next }
  | .addEsp amount =>
      let esp := machine.espHigh ++ machine.sp
      { machine.withFlags .add esp amount with
        espHigh := ((esp + amount) >>> 16).setWidth 16
        sp := (esp + amount).setWidth 16
        ip := next }
  | .subEsp amount =>
      let esp := machine.espHigh ++ machine.sp
      { machine.withFlags .sub esp amount with
        espHigh := ((esp - amount) >>> 16).setWidth 16
        sp := (esp - amount).setWidth 16
        ip := next }
  | .push src => { machine.push (machine.load16 src) with ip := next }
  | .pop dst => { { machine with sp := machine.sp + 2 }.store16 dst machine.top with ip := next }
  | .lodsb =>
      { machine.setReg8 .al (machine.memory (physical machine.ds machine.si)) with
        si := if machine.direction then machine.si - 1 else machine.si + 1
        ip := next }
  | .cld => { machine with direction := false, ip := next }
  | .nop => { machine with ip := next }
  | .jmp target => { machine with ip := target }
  | .jz target => { machine with ip := if machine.zero then target else next }
  | .jnz target => { machine with ip := if machine.zero then next else target }
  | .jc target => { machine with ip := if machine.carry then target else next }
  | .jmpFar segment offset => { machine with cs := segment, ip := offset }
  | .call target => { machine.push next with ip := target }
  | .ret => { machine with sp := machine.sp + 2, ip := machine.top }
  | .int10 | .int13 => { machine with ip := next }

def stored8 (machine : Machine) : Loc8 → List Nat
  | .reg _ => []
  | .mem address => [physical (machine.segment address.segment) (machine.offset address)]

def stored16 (machine : Machine) : Loc16 → List Nat
  | .reg _ | .seg _ => []
  | .mem address =>
      [physical (machine.segment address.segment) (machine.offset address),
        physical (machine.segment address.segment) (machine.offset address + 1)]

/-- The bytes an instruction writes itself, in whatever an interrupt does. -/
def stores (machine : Machine) : Instr → List Nat
  | .mov8 dst _ | .inc8 dst | .shr8 dst _ => machine.stored8 dst
  | .mov16 dst _ | .inc16 dst | .dec16 dst | .shr16 dst _ => machine.stored16 dst
  | .alu8 op dst _ => if op = .cmp then [] else machine.stored8 dst
  | .alu16 op dst _ => if op = .cmp then [] else machine.stored16 dst
  | .pop dst => { machine with sp := machine.sp + 2 }.stored16 dst
  | .push _ | .call _ =>
      [physical machine.ss (machine.sp - 2), physical machine.ss (machine.sp - 2 + 1)]
  | _ => []

def lowered (machine : Machine) : Instr → Option Word
  | .push _ | .call _ => some (machine.sp - 2)
  | .subEsp amount => some ((machine.espHigh ++ machine.sp - amount).setWidth 16)
  | _ => none

@[simp] theorem set_reg8_memory (machine : Machine) (register : Reg8) (value : Byte) :
    (machine.setReg8 register value).memory = machine.memory := by
  cases register <;> rfl

@[simp] theorem set_reg16_memory (machine : Machine) (register : Reg16) (value : Word) :
    (machine.setReg16 register value).memory = machine.memory := by
  cases register <;> rfl

@[simp] theorem set_segment_memory (machine : Machine) (register : Segment) (value : Word) :
    (machine.setSegment register value).memory = machine.memory := by
  cases register <;> rfl

theorem store8_frame (machine : Machine) (location : Loc8) (value : Byte) (address : Nat)
    (outside : address ∉ machine.stored8 location) :
    (machine.store8 location value).memory address = machine.memory address := by
  cases location with
  | reg register => simp [store8]
  | mem place =>
      simp only [stored8, List.mem_singleton] at outside
      simp [store8, Memory.set_byte_apply, outside]

theorem store16_frame (machine : Machine) (location : Loc16) (value : Word) (address : Nat)
    (outside : address ∉ machine.stored16 location) :
    (machine.store16 location value).memory address = machine.memory address := by
  cases location with
  | reg register => simp [store16]
  | seg register => simp [store16]
  | mem place =>
      simp only [stored16, List.mem_cons, List.not_mem_nil, or_false, not_or] at outside
      simp only [store16, Memory.set_word_apply]
      rw [if_neg outside.2, if_neg outside.1]

/-- `stores` is complete: nothing else in memory changes. -/
theorem execute_frame (machine : Machine) (next : Word) (instr : Instr) (address : Nat)
    (outside : address ∉ machine.stores instr) :
    (machine.execute next instr).memory address = machine.memory address := by
  cases instr with
  | mov8 dst src => exact store8_frame _ _ _ _ outside
  | mov16 dst src => exact store16_frame _ _ _ _ outside
  | inc8 dst => exact store8_frame _ _ _ _ outside
  | inc16 dst => exact store16_frame _ _ _ _ outside
  | dec16 dst => exact store16_frame _ _ _ _ outside
  | shr8 dst count => exact store8_frame _ _ _ _ outside
  | shr16 dst count => exact store16_frame _ _ _ _ outside
  | alu8 op dst src =>
      by_cases compares : op = .cmp
      · simp [execute, compares, withFlags]
      · simp only [stores, if_neg compares] at outside
        simp only [execute, if_neg compares]
        exact store8_frame _ _ _ _ (by cases dst <;> exact outside)
  | alu16 op dst src =>
      by_cases compares : op = .cmp
      · simp [execute, compares, withFlags]
      · simp only [stores, if_neg compares] at outside
        simp only [execute, if_neg compares]
        exact store16_frame _ _ _ _ (by cases dst <;> exact outside)
  | push src =>
      simp only [stores, List.mem_cons, List.not_mem_nil, or_false, not_or] at outside
      simp only [execute, push, Memory.set_word_apply]
      rw [if_neg outside.2, if_neg outside.1]
  | call target =>
      simp only [stores, List.mem_cons, List.not_mem_nil, or_false, not_or] at outside
      simp only [execute, push, Memory.set_word_apply]
      rw [if_neg outside.2, if_neg outside.1]
  | pop dst =>
      simp only [execute]
      exact store16_frame { machine with sp := machine.sp + 2 } _ _ _ outside
  | _ => simp [execute, withFlags]

end Machine

end BootSector.RealMode
