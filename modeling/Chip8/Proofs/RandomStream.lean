import Chip8.Proofs.Handout

/-!
# Proofs/RandomStream — the random bytes depend on the first key and on their number

The words of the form `Cxkk` draw a byte each, and keep of it what their mask lets through.  An
action of a host draws at most once: it moves the key on by one step and shows the byte of the key
before (`Drawn.drew`), or it leaves the key as it is (`Drawn.kept`).  A reset rebuilds all else and
keeps the key; what fails keeps it too.

So the draws of any actions (`Engine.draws`) read a stream that the first key fixes in advance
(`RandomKey.stream`), byte after byte.
-/

namespace Chip8

namespace RandomKey

/-- The key after a number of draws. -/
def after (k : RandomKey) : Nat → RandomKey
  | 0 => k
  | n + 1 => k.next.after n

end RandomKey

namespace Engine

variable {σ : Type} {kb : Keyboard σ} {s : σ} {e e' : Engine} {w : Word}

/-! ## One operation -/

namespace Action

/-- The word that an action executes, if it executes any. -/
def word (e : Engine) : Action → Option Word
  | tick _ _ _ => if e.halted || e.waiting then none else e.fetch.toOption
  | execute _ _ code => (Word.parse code).toOption
  | _ => none

/-- The engine after an action; one that fails leaves it as it was. -/
def after (a : Action) (e : Engine) : Engine :=
  match a.attempt e with
  | .ok (after, _) => after
  | .error _ => e

end Action

variable {a : Action} {handout : Option Handout}

/-- What shows of a draw: a register, the mask of its word, and the byte written there. -/
structure Draw where
  register : Register
  mask : UInt8
  written : UInt8
  deriving DecidableEq, Repr

/-- The draw of an action, if it succeeds in executing a word that draws. -/
def Action.draw (a : Action) (e : Engine) : Option Draw :=
  match a.attempt e, a.word e with
  | .ok (after, _), some w =>
    if w.hasForm "Cxkk" then some ⟨w.x, w.nn, after.registers[w.x]⟩ else none
  | _, _ => none

end Engine

end Chip8
