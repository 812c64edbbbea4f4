import Chip8.Error

/-!
# Display/Room — whether there is room for a picture

A picture in colour is an array of bytes, three for every pixel.  To enlarge it takes a block of
`scale` by `scale` bytes beside it, and then the enlarged picture beside both.  Sizes are counted in
63 bits, whatever memory there is; how much of that is to be had is for the surroundings to say.
-/

namespace Chip8

/-- The memory that is to be had. -/
structure Room where
  /-- Whether arrays of bytes with these sides can be held at once. -/
  holds : List (List Nat) → Bool

/-- How far sizes are counted. -/
def sizeLimit : Nat := 0x8000000000000000

namespace Room

/-- As much memory as can be asked for. -/
def unlimited : Room := ⟨fun _ => true⟩

/-- Fails unless an array of bytes can be had beside those that are `held`. -/
def take (room : Room) (held : List (List Nat)) (shape : List Nat) : Except Error Unit :=
  if shape.any (sizeLimit ≤ ·) then .error .dimensionRange
  else if sizeLimit ≤ shape.foldl (· * ·) 1 then .error .sizeRange
  else if room.holds (shape :: held) then .ok ()
  else .error (.noRoom shape)

/-- Fails unless a picture of some rows and columns can be shown at a scale; at a scale of one
nothing is enlarged. -/
def check (room : Room) (rows columns scale : Nat) : Except Error Unit := do
  let picture := [rows, columns, 3]
  let block := [scale, scale, 1]
  room.take [] picture
  if scale ≠ 1 then
    room.take [picture] block
    room.take [block, picture] [rows, scale, columns, scale, 3, 1]

end Room

end Chip8
