import Chip8.Error
import Chip8.Machine.Basic

/-!
# Machine/Host — what a host asks of the machine

A host can load a program from a file and draw at a place of its choice.  The place has to be given
in numbers of 32 bits; the row is looked at first, and a sprite without rows has no place.
-/

namespace Chip8

namespace Machine

/-- The machine with the program of a file, given what came of reading the file. -/
def loadFile (m : Machine) (name : String) (contents : Except FileFailure (List UInt8)) :
    Except Error Machine :=
  match contents with
  | .error cause => .error (.unreadable cause name)
  | .ok program => (m.load program).mapError .fault

/-- Fails unless a coordinate fits 32 bits. -/
def checkCoordinate (value : Int) : Except Error Unit :=
  if fitsSigned 32 value then .ok () else .error (.coordinateRange value)

/-- The machine with a sprite drawn at a place given by a host, and whether a lit pixel was
erased. -/
def drawAt (m : Machine) (x y : Int) (s : Sprite) : Except Error (Machine × Bool) := do
  if !s.isEmpty then
    checkCoordinate y
    checkCoordinate x
  return m.draw x y s

/-- A place that fits 32 bits is as good as any. -/
theorem drawAt_of_fits (m : Machine) (x y : Int) (s : Sprite) (hx : fitsSigned 32 x)
    (hy : fitsSigned 32 y) : m.drawAt x y s = .ok (m.draw x y s) := by
  cases s <;> simp [drawAt, checkCoordinate, hx, hy, bind, Except.bind, pure, Except.pure]

end Machine

end Chip8
