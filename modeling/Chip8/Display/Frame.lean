import Chip8.Display.Palette
import Chip8.Display.Room
import Chip8.Engine.Basic

/-!
# Display/Frame — pictures in colour, enlarged

Every pixel of a picture becomes a square of `scale` by `scale` pixels of one colour.  The engine is
rendered only if its screen was drawn on since the picture was last taken.
-/

namespace Chip8

/-- A picture in colour: rows from top to bottom, pixels from left to right. -/
structure Frame where
  rows : List (List Color)
  deriving DecidableEq, Repr

namespace Frame

/-- Every element of a list, repeated. -/
def stretch {α : Type} (scale : Nat) (xs : List α) : List α :=
  xs.flatMap (List.replicate scale)

theorem length_stretch {α : Type} (scale : Nat) (xs : List α) :
    (stretch scale xs).length = scale * xs.length := by
  induction xs with
  | nil => simp [stretch]
  | cons x xs ih => simp_all [stretch, Nat.mul_add, Nat.add_comm]

/-- Every `scale`-th place of a stretched list moves on by one element. -/
theorem getElem?_stretch {α : Type} (scale : Nat) (xs : List α) (i : Nat) (h : 0 < scale) :
    (stretch scale xs)[i]? = xs[i / scale]? := by
  induction xs generalizing i with
  | nil => simp [stretch]
  | cons x xs ih =>
    have e : stretch scale (x :: xs) = List.replicate scale x ++ stretch scale xs := rfl
    rw [e, List.getElem?_append]
    by_cases hi : i < scale
    · simp [hi, Nat.div_eq_of_lt hi]
    · have hd : i / scale = (i - scale) / scale + 1 := by
        rw [Nat.div_eq_sub_div h (by omega)]
      simp [hi, ih, hd]

/-- Pixels in colour and enlarged. -/
def enlarge (bits : List (List Bool)) (scale : Nat) (palette : Palette) : Frame :=
  ⟨stretch scale (bits.map fun row => stretch scale (row.map palette.color))⟩

/-- How many rows a frame has. -/
def height (f : Frame) : Nat := f.rows.length

/-- How many pixels its rows have. -/
def width (f : Frame) : Nat := (f.rows.headD []).length

/-- The sides of a frame, the three bytes of a pixel last; without rows there is no width. -/
def shape (f : Frame) : List Nat := if f.rows.isEmpty then [0, 3] else [f.height, f.width, 3]

/-- A frame of one colour. -/
def plain (width height : Nat) (color : Color) : Frame :=
  ⟨List.replicate height (List.replicate width color)⟩

/-- Fails unless a scale is at least one. -/
def checkScale (scale : Int) : Except Error Nat :=
  if scale < 1 then .error (.scaleRange scale) else .ok scale.toNat

/-- The frame of a picture, if there is room for it.  To be enlarged, a picture without rows is
given one without pixels. -/
def build (room : Room) (bits : List (List Bool)) (scale : Nat) (palette : Palette) :
    Except Error Frame := do
  let bits := if bits.isEmpty && scale ≠ 1 then [[]] else bits
  room.check bits.length (bits.headD []).length scale
  return enlarge bits scale palette

/-- The frame of a picture in the colours of a palette. -/
def render (room : Room) (bits : List (List Bool)) (scale : Int) (palette : Palette) :
    Except Error Frame := do
  let s ← checkScale scale
  build room bits s palette

/-- The frame of a picture in colours given by their components; the scale is checked first, then
the lit colour, then the dark one, and then there has to be room. -/
def renderIn (room : Room) (bits : List (List Bool)) (scale : Int) (on off : Int × Int × Int) :
    Except Error Frame := do
  let s ← checkScale scale
  let on ← Color.ofComponents on.1 on.2.1 on.2.2
  let off ← Color.ofComponents off.1 off.2.1 off.2.2
  build room bits s { on, off }

/-- Fails unless the rows of a picture are equally long. -/
def checkRows (bits : List (List Bool)) : Except Error Unit :=
  if bits.all fun row => row.length = (bits.headD []).length then .ok ()
  else .error (.unevenRows bits.length)

/-- The frame of a picture from outside: its rows are compared before anything else is looked
at. -/
def request (room : Room) (bits : List (List Bool)) (scale : Int) (on off : Int × Int × Int) :
    Except Error Frame := do
  checkRows bits
  renderIn room bits scale on off

end Frame

namespace Engine

/-- The frame of what is on the screen. -/
def frame (e : Engine) (room : Room) (scale : Int) (palette : Palette) : Except Error Frame :=
  Frame.render room e.machine.picture.toRows scale palette

/-- The frame of what is on the screen if it was drawn on, and the engine with its picture taken. -/
def renderIfDirty (e : Engine) (room : Room) (scale : Int) (scheme : String) :
    Except Error (Engine × Option Frame) :=
  if e.machine.dirty then do
    let palette ← Palette.parse scheme
    let (machine, picture) := e.machine.takePicture
    let frame ← Frame.render room picture.toRows scale palette
    return ({ e with machine }, some frame)
  else .ok (e, none)

end Engine

end Chip8
