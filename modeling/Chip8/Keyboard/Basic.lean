import Chip8.Interaction

/-!
# Keyboard/Basic — what the engine asks of a keyboard

The engine puts two questions to a keyboard: whether a certain key is down, and which key is to end
a wait.  A keyboard answers from a state of its own, which may move on with every question.
-/

namespace Chip8

/-- A keyboard with states `σ`. -/
structure Keyboard (σ : Type) where
  /-- Whether a key is down. -/
  isPressed : Int → σ → Except Error Bool × σ
  /-- The key that ends a wait, if there is one. -/
  getKey : σ → Option Int × σ

namespace Keyboard

variable {σ τ : Type}

/-- Asks whether a key is down. -/
def ask (kb : Keyboard σ) (key : Int) : Interaction σ Bool := fun s =>
  let (answer, s') := kb.isPressed key s
  ⟨answer, s', []⟩

/-- Asks for the key that ends a wait. -/
def poll (kb : Keyboard σ) : Interaction σ (Option Int) := fun s =>
  let (key, s') := kb.getKey s
  ⟨.ok key, s', []⟩

/-- One keyboard or another, as the state tells. -/
def either (left : Keyboard σ) (right : Keyboard τ) : Keyboard (σ ⊕ τ) where
  isPressed key
    | .inl s => (left.isPressed key s).map id .inl
    | .inr t => (right.isPressed key t).map id .inr
  getKey
    | .inl s => (left.getKey s).map id .inl
    | .inr t => (right.getKey t).map id .inr

end Keyboard

/-- One held key, of any number, and how often a wait has asked for it. -/
structure HeldKey where
  key : Option Int
  polls : Nat := 0
  deriving DecidableEq, Repr

namespace HeldKey

/-- The key is held from now on. -/
def press (h : HeldKey) (key : Int) : HeldKey := { h with key := some key }

/-- The key is let go, if it is the one held. -/
def release (h : HeldKey) (key : Int) : HeldKey :=
  if h.key = some key then { h with key := none } else h

/-- The held key as a keyboard. -/
def keyboard : Keyboard HeldKey where
  isPressed key h := (.ok (h.key == some key), h)
  getKey h := (h.key, { h with polls := h.polls + 1 })

end HeldKey

end Chip8
