import Chip8.Machine.CallStack
import Chip8.Machine.Memory
import Chip8.Machine.Picture

/-!
# Machine/Basic — memory, call stack and screen together

The parts of the machine that the registers work on.  The screen carries a mark, `dirty`: it is set
by everything that draws, and cleared by whoever takes the picture.
-/

namespace Chip8

/-- Memory, call stack and screen. -/
structure Machine where
  memory : Memory := .initial
  stack : CallStack := {}
  picture : Picture := .blank
  /-- Whether the screen was drawn on since the picture was last taken. -/
  dirty : Bool := true

namespace Machine

/-- The machine with a program in its memory. -/
def load (m : Machine) (program : List UInt8) : Except Fault Machine :=
  (m.memory.load program).map fun memory => { m with memory }

/-- The bytes of a range of memory. -/
def read (m : Machine) (address length : Int) : Except Fault (List UInt8) :=
  m.memory.read address length

/-- The machine with bytes written to memory. -/
def write (m : Machine) (address : Int) (bytes : List UInt8) : Except Fault Machine :=
  (m.memory.write address bytes).map fun memory => { m with memory }

/-- The word at an address. -/
def word (m : Machine) (address : Int) : Except Fault Word := m.memory.word address

/-- The machine with a return address pushed. -/
def push (m : Machine) (address : Int) : Except Fault Machine :=
  (m.stack.push address).map fun stack => { m with stack }

/-- The machine with the newest return address taken, and that address. -/
def pop (m : Machine) : Except Fault (Machine × Word) :=
  m.stack.pop.map fun (stack, frame) => ({ m with stack }, frame)

/-- The machine with a dark screen. -/
def clear (m : Machine) : Machine := { m with picture := .blank, dirty := true }

/-- The machine with a sprite drawn, and whether a lit pixel was erased. -/
def draw (m : Machine) (x y : Int) (s : Sprite) : Machine × Bool :=
  ({ m with picture := m.picture.xor (s.stamp x y), dirty := true }, s.collides x y m.picture)

/-- The machine with its picture taken, and that picture. -/
def takePicture (m : Machine) : Machine × Picture := ({ m with dirty := false }, m.picture)

end Machine

end Chip8
