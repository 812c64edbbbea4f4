import Chip8.Word

/-!
# Instruction — the thirty-five instructions, and the words that stand for them

`Instruction.ofWord?` reads a word: the leading digit chooses a family, and within a family the last
digit, the low byte or the whole word may choose further.  A word that is no instruction reads as
`none`; what happens then is the engine's affair.
-/

namespace Chip8

/-- The operations on two registers. -/
inductive Operation
  | copy
  | or
  | and
  | xor
  | add
  | subtract
  | shiftRight
  | subtractFrom
  | shiftLeft
  deriving DecidableEq, Repr

/-- An instruction with its operands. -/
inductive Instruction
  | halt
  | clear
  | ret
  | jump (target : Address)
  | call (target : Address)
  | skipIfByte (x : Register) (byte : UInt8)
  | skipUnlessByte (x : Register) (byte : UInt8)
  | skipIfSame (x y : Register)
  | setByte (x : Register) (byte : UInt8)
  | addByte (x : Register) (byte : UInt8)
  | operate (operation : Operation) (x y : Register)
  | skipUnlessSame (x y : Register)
  | setIndex (target : Address)
  /-- A jump by a register: `V0`, or the register named by the target's leading digit. -/
  | jumpFrom (x : Register) (target : Address)
  | random (x : Register) (mask : UInt8)
  | draw (x y : Register) (height : Fin 16)
  | skipIfPressed (x : Register)
  | skipUnlessPressed (x : Register)
  | readDelay (x : Register)
  | waitForKey (x : Register)
  | setDelay (x : Register)
  | setSound (x : Register)
  | addIndex (x : Register)
  | findGlyph (x : Register)
  | storeDecimal (x : Register)
  | storeRegisters (x : Register)
  | loadRegisters (x : Register)
  deriving DecidableEq, Repr

namespace Operation

/-- The operation chosen by the last digit of a word. -/
def ofDigit? : Fin 16 → Option Operation
  | 0x0 => some copy
  | 0x1 => some or
  | 0x2 => some and
  | 0x3 => some xor
  | 0x4 => some add
  | 0x5 => some subtract
  | 0x6 => some shiftRight
  | 0x7 => some subtractFrom
  | 0xE => some shiftLeft
  | _ => none

end Operation

namespace Instruction

/-- The words without operands. -/
def ofSystemWord? (w : Word) : Option Instruction :=
  match w.toNat with
  | 0x0000 => some .halt
  | 0x00E0 => some .clear
  | 0x00EE => some .ret
  | _ => none

/-- The instructions that ask for a key, chosen by the low byte. -/
def ofKeyWord? (w : Word) : Option Instruction :=
  match w.nn.toNat with
  | 0x9E => some (.skipIfPressed w.x)
  | 0xA1 => some (.skipUnlessPressed w.x)
  | _ => none

/-- The instructions on timers, index and blocks of registers, chosen by the low byte. -/
def ofMiscWord? (w : Word) : Option Instruction :=
  match w.nn.toNat with
  | 0x07 => some (.readDelay w.x)
  | 0x0A => some (.waitForKey w.x)
  | 0x15 => some (.setDelay w.x)
  | 0x18 => some (.setSound w.x)
  | 0x1E => some (.addIndex w.x)
  | 0x29 => some (.findGlyph w.x)
  | 0x33 => some (.storeDecimal w.x)
  | 0x55 => some (.storeRegisters w.x)
  | 0x65 => some (.loadRegisters w.x)
  | _ => none

/-- The instruction that a word stands for. -/
def ofWord? (w : Word) : Option Instruction :=
  match w.family.val with
  | 0x0 => ofSystemWord? w
  | 0x1 => some (.jump w.nnn)
  | 0x2 => some (.call w.nnn)
  | 0x3 => some (.skipIfByte w.x w.nn)
  | 0x4 => some (.skipUnlessByte w.x w.nn)
  | 0x5 => if w.n = 0 then some (.skipIfSame w.x w.y) else none
  | 0x6 => some (.setByte w.x w.nn)
  | 0x7 => some (.addByte w.x w.nn)
  | 0x8 => (Operation.ofDigit? w.n).map (.operate · w.x w.y)
  | 0x9 => if w.n = 0 then some (.skipUnlessSame w.x w.y) else none
  | 0xA => some (.setIndex w.nnn)
  | 0xB => some (.jumpFrom w.x w.nnn)
  | 0xC => some (.random w.x w.nn)
  | 0xD => some (.draw w.x w.y w.n)
  | 0xE => ofKeyWord? w
  | _ => ofMiscWord? w

end Instruction

end Chip8
