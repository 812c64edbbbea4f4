/-!
# Machine/Picture — 64 by 32 pixels, and the sprites drawn on them

A picture is 32 rows of 64 bits, leftmost pixel first.  A sprite is a column of bytes; laid on an
empty screen it makes a picture of its own, its `Sprite.stamp`, which wraps around the edges.  To
draw is to combine the screen with the stamp by exclusive "or", so drawing twice undoes itself.
-/

namespace Chip8

/-- How many pixels a row has. -/
def screenWidth : Nat := 64

/-- How many rows a picture has. -/
def screenHeight : Nat := 32

/-- A row of pixels; the leftmost is the highest bit. -/
abbrev PixelRow := BitVec screenWidth

/-- A picture of the screen. -/
abbrev Picture := Vector PixelRow screenHeight

namespace Picture

/-- The dark picture. -/
def blank : Picture := .replicate screenHeight 0

/-- The pixel in column `x` of row `y`. -/
def pixel (p : Picture) (x : Fin screenWidth) (y : Fin screenHeight) : Bool := p[y].getMsbD x

/-- The pixels that differ between two pictures. -/
def xor (p q : Picture) : Picture := .zipWith (· ^^^ ·) p q

/-- The rows as lists of pixels, leftmost first. -/
def toRows (p : Picture) : List (List Bool) :=
  p.toList.map fun row => (List.range screenWidth).map row.getMsbD

@[simp] theorem pixel_blank (x : Fin screenWidth) (y : Fin screenHeight) :
    blank.pixel x y = false := by
  simp [pixel, blank]

@[simp] theorem pixel_xor (p q : Picture) (x : Fin screenWidth) (y : Fin screenHeight) :
    (p.xor q).pixel x y = (p.pixel x y ^^ q.pixel x y) := by
  simp [pixel, xor]

theorem xor_comm (p q : Picture) : p.xor q = q.xor p := by
  ext i hi
  simp [xor, BitVec.xor_comm]

theorem xor_assoc (p q r : Picture) : (p.xor q).xor r = p.xor (q.xor r) := by
  ext i hi
  simp [xor, BitVec.xor_assoc]

@[simp] theorem xor_self (p : Picture) : p.xor p = blank := by
  ext i hi
  simp [xor, blank]

@[simp] theorem xor_blank (p : Picture) : p.xor blank = p := by
  ext i hi
  simp [xor, blank]

end Picture

/-- The rows of a sprite, eight pixels each. -/
abbrev Sprite := List UInt8

namespace Sprite

/-- A row of a sprite on an empty row of the screen, its left end in column `x`. -/
def stampRow (x : Int) (bits : UInt8) : PixelRow :=
  (BitVec.ofNat screenWidth bits.toNat <<< (screenWidth - 8)).rotateRight (x % screenWidth).toNat

/-- The row of the screen on which row `k` of a sprite at height `y` falls. -/
def landing (y : Int) (k : Nat) : Nat := ((y + k) % screenHeight).toNat

/-- The sprite's last row that falls on row `row` of the screen, dark if there is none. -/
def stampOn (x y : Int) (s : Sprite) (row : Nat) : PixelRow :=
  s.zipIdx.foldl (fun dark (bits, k) => if landing y k = row then stampRow x bits else dark) 0

/-- The picture that a sprite makes on an empty screen. -/
def stamp (x y : Int) (s : Sprite) : Picture := .ofFn fun row => stampOn x y s row

/-- Whether a set pixel of the sprite falls on a lit pixel of the picture. -/
def collides (x y : Int) (s : Sprite) (p : Picture) : Bool :=
  s.zipIdx.any fun (bits, k) => (p[landing y k]?.getD 0) &&& stampRow x bits != 0

end Sprite

end Chip8
