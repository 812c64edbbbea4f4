import Chip8.Proofs.Execution

/-!
# Proofs/Turns — runs of ticks, each with a keyboard and a time of its own

What a host does between ticks may change the keyboard, and time passes as it likes.  So a run is
given as a list of turns, one for each tick, each with the keyboard as it is then.

Two runs are compared turn by turn.  If a map between engines carries every tick of the one run to
the tick of the other, it carries the one run to the other (`through_map`), however far they get and
whatever they fail with.
-/

namespace Chip8

/-- What one tick finds: the keyboard as it is then, and the seconds since the tick before. -/
structure Turn : Type 1 where
  {σ : Type}
  keyboard : Keyboard σ
  host : σ
  elapsed : Option Double

/-- The key that is named at a turn to an engine that waits. -/
def Turn.key (t : Turn) : Option Int := (t.keyboard.getKey t.host).1

/-- Whether a key is down at a turn. -/
def Turn.pressed (t : Turn) (key : Int) : Except Error Bool := (t.keyboard.isPressed key t.host).1

namespace Engine

/-- That a tick of an engine executes a word. -/
structure Executes (e : Engine) (w : Word) : Prop where
  not_halted : e.halted = false
  not_waiting : e.waiting = false
  fetches : e.fetch = .ok w

/-- That a tick of an engine gets as far as a word, because its timers can be counted. -/
structure ExecutesAt (e : Engine) (elapsed : Option Double) (w : Word) : Prop extends
    Executes e w where
  counts : ∃ counted, e.countTimers elapsed = .ok counted

/-- What comes of a tick at a turn. -/
def tickAt (e : Engine) (t : Turn) : Except Error Engine :=
  (e.tick t.keyboard t.elapsed t.host).result

/-- What comes of a tick at each turn of a list. -/
def through (e : Engine) (turns : List Turn) : Except Error Engine := turns.foldlM tickAt e

theorem through_cons (e : Engine) (t : Turn) (turns : List Turn) :
    e.through (t :: turns) = e.tickAt t >>= fun next => next.through turns := List.foldlM_cons

theorem through_append (e : Engine) (turns turns' : List Turn) :
    e.through (turns ++ turns') = e.through turns >>= fun next => next.through turns' :=
  List.foldlM_append

theorem through_singleton (e : Engine) (t : Turn) : e.through [t] = e.tickAt t := bind_pure _

/-- Of two turns, the first has nothing before it and the second has the first. -/
theorem forall_of_pair {α : Type 1} {a b : α} {P : List α → α → Prop} (hfirst : P [] a)
    (hsecond : P [a] b) : ∀ before t after, [a, b] = before ++ t :: after → P before t := by
  rintro (_ | ⟨c, _ | ⟨d, before⟩⟩) t after h
  · obtain ⟨rfl, _⟩ := List.cons.inj h
    exact hfirst
  · obtain ⟨rfl, hrest⟩ := List.cons.inj h
    obtain ⟨rfl, _⟩ := List.cons.inj hrest
    exact hsecond
  · simp at h

/-! ## Two runs, turn by turn -/

variable {γ : Type 1} {left right : γ → Turn} {f : Engine → Engine}

/-- That a map between engines carries every tick of a run to the tick of another run. -/
def Carries (f : Engine → Engine) (left right : γ → Turn) (e : Engine) (steps : List γ) : Prop :=
  ∀ before p after x, steps = before ++ p :: after → e.through (before.map left) = .ok x →
    (f x).tickAt (right p) = (x.tickAt (left p)).map f

/-- A map that carries all ticks of a run carries those of the rest. -/
theorem Carries.tail {e next : Engine} {p : γ} {steps : List γ}
    (h : Carries f left right e (p :: steps)) (hnext : e.tickAt (left p) = .ok next) :
    Carries f left right next steps := by
  intro before q after x hsteps hx
  refine h (p :: before) q after x (by rw [hsteps, List.cons_append]) ?_
  rw [List.map_cons, through_cons, hnext]
  exact hx

/-- A map that carries all ticks of a run carries those of its beginning. -/
theorem Carries.take {e : Engine} {steps : List γ} (h : Carries f left right e steps) (n : Nat) :
    Carries f left right e (steps.take n) := by
  intro before p after x hsteps hx
  refine h before p (after ++ steps.drop n) x ?_ hx
  rw [← List.cons_append, ← List.append_assoc, ← hsteps, List.take_append_drop]

/-- **What carries every tick carries the run.** -/
theorem through_map {e : Engine} {steps : List γ} (h : Carries f left right e steps) :
    (f e).through (steps.map right) = (e.through (steps.map left)).map f := by
  induction steps generalizing e with
  | nil => rfl
  | cons p steps ih =>
    have hfirst : (f e).tickAt (right p) = (e.tickAt (left p)).map f := h [] p steps e rfl rfl
    rw [List.map_cons, List.map_cons, through_cons, through_cons, hfirst]
    -- The first ticks fail with one error, or both runs go on from engines that correspond.
    cases hnext : e.tickAt (left p) with
    | error err => rfl
    | ok next => exact ih (h.tail hnext)

end Engine

end Chip8
