import Chip8.Error

/-!
# Timers — two counters that run down to zero

The delay and the sound timer count down together.  They lose one step at every tick, or they follow
a clock: the seconds that passed, times a frequency, gather in an accumulator, and its whole part is
taken off as steps.  A clock that runs backwards gives negative steps, and the timers then climb,
within eight bits.

The arithmetic asks little of its numbers (`Seconds`): the engine counts in doubles, and laws about
exact time can be stated for the rational numbers.
-/

namespace Chip8

/-- What a clock needs of the numbers it counts seconds with. -/
class Seconds (α : Type) extends Add α, Sub α, Mul α where
  zero : α
  isZero : α → Bool
  ofInt : Int → α
  /-- The whole part, towards zero; numbers that are none have none. -/
  wholePart : α → Except Error Int

/-- Doubles count seconds. -/
instance : Seconds Double where
  zero := 0
  isZero := Double.isZero
  ofInt := Double.ofInt
  wholePart x :=
    match x.value with
    | .finite negative significand exponent =>
      let magnitude : Int := Binary64.wholeMagnitude significand exponent
      .ok (if negative then -magnitude else magnitude)
    | .infinite _ => .error .infinite
    | .notANumber => .error .notANumber

/-- What makes the timers count. -/
inductive TimerMode
  | perTick
  | clock
  deriving DecidableEq, Repr

namespace TimerMode

/-- The name of a mode, as settings give it. -/
def name : TimerMode → String
  | perTick => "per_tick"
  | clock => "clock"

/-- The mode of a name. -/
def parse (name : String) : Except Error TimerMode :=
  match [perTick, clock].find? (·.name == name) with
  | some mode => .ok mode
  | none => .error (.unknownMember "TimerMode" name)

end TimerMode

/-- The two timers, and the part of a step that the clock has gathered. -/
structure Timers (α : Type) where
  delay : UInt8 := 0
  sound : UInt8 := 0
  accumulator : α

namespace Timers

/-- A timer after some steps: down to zero at most, and within eight bits. -/
def countDown (timer : UInt8) (steps : Int) : UInt8 :=
  UInt8.ofNat ((timer.toNat : Int) - steps).toNat

variable {α : Type}

/-- Both timers after some steps. -/
def lower (t : Timers α) (steps : Int) : Timers α :=
  { t with delay := countDown t.delay steps, sound := countDown t.sound steps }

/-- The timers after `elapsed` seconds of a clock; no seconds and zero seconds are the same. -/
def follow [Seconds α] (t : Timers α) (frequency : α) (elapsed : Option α) :
    Except Error (Timers α) := do
  let seconds := match elapsed with
    | some s => if Seconds.isZero s then Seconds.zero else s
    | none => Seconds.zero
  let gathered := t.accumulator + seconds * frequency
  let steps ← Seconds.wholePart gathered
  return { t.lower steps with accumulator := gathered - Seconds.ofInt steps }

/-- The timers after a tick. -/
def advance [Seconds α] (t : Timers α) (mode : TimerMode) (frequency : α) (elapsed : Option α) :
    Except Error (Timers α) :=
  match mode with
  | .perTick => .ok (t.lower 1)
  | .clock => t.follow frequency elapsed

@[simp] theorem countDown_zero (timer : UInt8) : countDown timer 0 = timer := by
  simp [countDown]

@[simp] theorem lower_zero (t : Timers α) : t.lower 0 = t := by simp [lower]

end Timers

end Chip8
