import Chip8.Error

/-!
# Display/Palette — colours, and the named pairs of them

A picture has two colours, one for lit pixels and one for dark ones.
-/

namespace Chip8

/-- A colour. -/
structure Color where
  red : UInt8
  green : UInt8
  blue : UInt8
  deriving DecidableEq, Repr

namespace Color

/-- A colour component. -/
def component (value : Int) : Except Error UInt8 :=
  if 0 ≤ value ∧ value ≤ 255 then .ok (UInt8.ofNat value.toNat)
  else .error (if fitsSigned 64 value then .componentRange value else .tooWide)

/-- The colour of three components, checked in turn. -/
def ofComponents (red green blue : Int) : Except Error Color := do
  return ⟨← component red, ← component green, ← component blue⟩

end Color

/-- A colour for lit pixels and one for dark pixels. -/
structure Palette where
  on : Color := ⟨0, 255, 0⟩
  off : Color := ⟨0, 0, 0⟩
  deriving DecidableEq, Repr

namespace Palette

/-- The palettes that have a name. -/
def schemes : List (String × Palette) := [
  ("classic", { on := ⟨0, 255, 0⟩, off := ⟨0, 0, 0⟩ }),
  ("amber", { on := ⟨255, 176, 0⟩, off := ⟨0, 0, 0⟩ }),
  ("white", { on := ⟨255, 255, 255⟩, off := ⟨0, 0, 0⟩ }),
  ("blue", { on := ⟨0, 255, 255⟩, off := ⟨0, 0, 64⟩ }),
  ("retro", { on := ⟨255, 255, 0⟩, off := ⟨64, 0, 64⟩ }),
  ("pink", { on := ⟨255, 33, 110⟩, off := ⟨77, 77, 77⟩ })]

/-- The palette of a name. -/
def parse (name : String) : Except Error Palette :=
  match schemes.lookup name with
  | some palette => .ok palette
  | none => .error (.unknownScheme name (schemes.map (·.1)))

/-- The colour of a pixel. -/
def color (p : Palette) (lit : Bool) : Color := if lit then p.on else p.off

end Palette

end Chip8
