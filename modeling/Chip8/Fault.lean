import Chip8.Machine.Limits
import Chip8.Text.Hex
import Chip8.Word

/-!
# Fault — what a machine refuses to do

The five ways in which a program can ask for what the machine does not have, each with the numbers
its message shows.
-/

namespace Chip8

/-- What a machine refuses to do. -/
inductive Fault
  /-- A program of `size` bytes does not fit between its start and the end of memory. -/
  | programTooLarge (size : Nat)
  /-- The word at `pc` is not an instruction. -/
  | unknownInstruction (word pc : Word)
  /-- A return address is pushed on a full call stack. -/
  | stackOverflow (address : Int)
  /-- A return address is taken from an empty call stack. -/
  | stackUnderflow
  /-- Some of the `length` cells from `address` on do not exist. -/
  | outOfBounds (address length : Int)
  deriving DecidableEq, Repr

namespace Fault

/-- The name under which a fault is reported. -/
def title : Fault → String
  | programTooLarge _ => "ProgramTooLargeError"
  | unknownInstruction _ _ => "UnimplementedOpcodeError"
  | stackOverflow _ => "StackOverflowError"
  | stackUnderflow => "StackUnderflowError"
  | outOfBounds _ _ => "MemoryBoundsError"

open Text in
/-- The text of a fault. -/
def message : Fault → String
  | programTooLarge size =>
    s!"Program is {size} bytes, the interpreter only has room for {programLimit}"
  | unknownInstruction word pc =>
    s!"Unimplemented opcode 0x{hexNat 4 word.toNat} at 0x{hexNat 3 pc.toNat}"
  | stackOverflow address =>
    s!"Call stack overflow pushing 0x{hexInt 3 address} (depth {stackDepth})"
  | stackUnderflow => "Return with an empty call stack"
  | outOfBounds address length =>
    s!"Memory access 0x{hexInt 0 address}..0x{hexInt 0 (address + length - 1)} is out of bounds"

end Fault

end Chip8
