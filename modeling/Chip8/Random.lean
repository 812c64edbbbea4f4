/-!
# Random — a stream of bytes drawn from a splittable key

The generator is the counter-based cipher Threefry with two words of 32 bits and twenty rounds.  A
key splits into two by enciphering the counters 0 and 1; to draw a byte, the first half becomes the
next key and the second half gives the byte.  The stream therefore depends on the first key alone.
-/

namespace Chip8

/-- A key of the generator. -/
structure RandomKey where
  first : UInt32 := 0
  second : UInt32 := 0
  deriving DecidableEq, Repr

namespace RandomKey

/-- The bits of a word moved left, those that fall off returning on the right. -/
def rotate (x amount : UInt32) : UInt32 := (x <<< amount) ||| (x >>> (32 - amount))

/-- One round of mixing. -/
def mixRound (block : UInt32 × UInt32) (amount : UInt32) : UInt32 × UInt32 :=
  let sum := block.1 + block.2
  (sum, rotate block.2 amount ^^^ sum)

/-- The amounts of the four rounds in a group; groups alternate. -/
def rotations (group : Nat) : List UInt32 :=
  if group % 2 == 0 then [13, 15, 26, 6] else [17, 29, 16, 24]

/-- The three words added to the block in turn. -/
def schedule (k : RandomKey) (i : Nat) : UInt32 :=
  match i % 3 with
  | 0 => k.first
  | 1 => k.second
  | _ => k.first ^^^ k.second ^^^ 0x1BD11BDA

/-- A group of four rounds, and the words added after it. -/
def mixGroup (k : RandomKey) (block : UInt32 × UInt32) (group : Nat) : UInt32 × UInt32 :=
  let (a, b) := (rotations group).foldl mixRound block
  (a + k.schedule (group + 1), b + k.schedule (group + 2) + UInt32.ofNat (group + 1))

/-- A block of two words, enciphered. -/
def encipher (k : RandomKey) (a b : UInt32) : UInt32 × UInt32 :=
  (List.range 5).foldl k.mixGroup (a + k.schedule 0, b + k.schedule 1)

/-- Two keys from one. -/
def split (k : RandomKey) : RandomKey × RandomKey :=
  let (a, b) := k.encipher 0 0
  let (c, d) := k.encipher 0 1
  (⟨a, b⟩, ⟨c, d⟩)

/-- The key after a byte was drawn. -/
def next (k : RandomKey) : RandomKey := k.split.1

/-- The byte that a key gives. -/
def byte (k : RandomKey) : UInt8 :=
  let (a, b) := k.split.2.split.2.encipher 0 0
  (a ^^^ b).toUInt8

end RandomKey

end Chip8
