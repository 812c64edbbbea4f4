import Chip8.Keyboard.Basic
import Chip8.Text.Hex

/-!
# Keyboard/Keypad — the keypad of sixteen keys

A keypad is the set of keys that are down.  Keys are asked for by integers, and an integer that is
no key is refused before it reaches the set.
-/

namespace Chip8

/-- Which of the sixteen keys are down. -/
structure Keypad where
  keys : Vector Bool 16 := .replicate 16 false
  deriving DecidableEq

namespace Keypad

/-- The key that an integer stands for. -/
def parseKey (key : Int) : Except Error (Fin 16) :=
  if h : 0 ≤ key ∧ key < 16 then .ok ⟨key.toNat, by omega⟩ else .error (.keyRange key)

/-- The keypad with a key down or up. -/
def set (p : Keypad) (key : Fin 16) (down : Bool) : Keypad := ⟨p.keys.set key down⟩

/-- The keypad with a key pressed. -/
def press (p : Keypad) (key : Int) : Except Error Keypad := (parseKey key).map (p.set · true)

/-- The keypad with a key let go. -/
def release (p : Keypad) (key : Int) : Except Error Keypad := (parseKey key).map (p.set · false)

/-- The keypad with all keys let go. -/
def releaseAll : Keypad := {}

/-- The keypad with the keys of a list pressed in turn. -/
def ofKeys (keys : List Int) : Except Error Keypad := keys.foldlM press {}

/-- Whether a key is down. -/
def isPressed (p : Keypad) (key : Int) : Except Error Bool :=
  (parseKey key).map fun k => p.keys[k]

/-- The keys that are down, in ascending order. -/
def pressed (p : Keypad) : List (Fin 16) := (List.finRange 16).filter fun k => p.keys[k]

/-- The lowest key that is down. -/
def lowest (p : Keypad) : Option (Fin 16) := (List.finRange 16).find? fun k => p.keys[k]

/-- The keypad in one line. -/
def text (p : Keypad) : String :=
  let names := p.pressed.map fun k => Text.hexNat 1 k.val
  "Keypad(pressed=[" ++ ", ".intercalate names ++ "])"

@[simp] theorem getElem_keys_set (p : Keypad) (key other : Fin 16) (down : Bool) :
    (p.set key down).keys[other] = if key = other then down else p.keys[other] := by
  simp [set, Vector.getElem_set, Fin.ext_iff]

theorem pressed_blank : ({} : Keypad).pressed = [] := rfl

/-- A key that is set is down as it was set; the others stay. -/
theorem mem_pressed_set {p : Keypad} {key other : Fin 16} {down : Bool} :
    other ∈ (p.set key down).pressed ↔ if key = other then down = true else other ∈ p.pressed := by
  simp only [pressed, List.mem_filter, List.mem_finRange, true_and, getElem_keys_set]
  split <;> rfl

/-- The keypad as a keyboard. -/
def keyboard : Keyboard Keypad where
  isPressed key p := (p.isPressed key, p)
  getKey p := (p.lowest.map fun k => (k.val : Int), p)

end Keypad

end Chip8
