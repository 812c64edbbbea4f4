import Chip8.Engine.Basic

/-!
# Debugger/Dump — registers and memory in lines of text

Every number of the register dump is written in base sixteen and again in base ten; the memory dump
has a line for every cell.
-/

namespace Chip8.Dump

open Text

/-- A number in base sixteen, at least `width` digits wide, and in base ten. -/
def both (width n : Nat) : String := s!"0x{hexNat width n} ({n})"

/-- The line of a register. -/
def register (v : Registers) (x : Register) : String :=
  s!"V{hexNat 1 x.val}: {both 2 v[x].toNat}"

/-- The frames of a call stack, oldest first. -/
def frames (s : CallStack) : String :=
  "Stack: [" ++ ", ".intercalate (s.frames.map fun frame => s!"0x{hexNat 3 frame.toNat}") ++ "]"

/-- The registers, the timers and the call stack. -/
def registers (e : Engine) : List String :=
  (List.finRange 16).map (register e.registers) ++ [
    s!"I: {both 3 e.index.toNat}",
    s!"PC: {both 3 e.pc.toNat}",
    s!"SP: {both 1 e.machine.stack.depth}",
    s!"DT: {both 1 e.timers.delay.toNat}",
    s!"ST: {both 1 e.timers.sound.toNat}",
    frames e.machine.stack]

/-- The line of a memory cell. -/
def cell (address : Nat) (byte : UInt8) : String :=
  s!"0x{hexNat 3 address}: {hexNat 2 byte.toNat}"

/-- The cells from `start` up to, but without, `stop`. -/
def memory (m : Memory) (start stop : Int) : Except Fault (List String) :=
  if 0 ≤ start ∧ start ≤ stop ∧ stop ≤ memorySize then
    .ok ((List.range' start.toNat (stop - start).toNat).map fun a => cell a (m.byteAt a))
  else .error (.outOfBounds start (max (stop - start) 1))

end Chip8.Dump
