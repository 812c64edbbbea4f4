import Chip8.Log.Settings
import Chip8.Timers

/-!
# Engine/Config — how an engine is set up

Interpreters differ in the meaning of a few instructions; a `Dialect` chooses among the variants.
The rest of the configuration is about time.  `Config.parse` checks settings given as names and
numbers, `Config.settings` writes them down.
-/

namespace Chip8

/-- The variants of single instructions; with none of them the classic table holds. -/
structure Dialect where
  /-- The shifts take their operand from `Vy`. -/
  shiftUsesVy : Bool := false
  /-- A jump with offset adds the register named by the target's leading digit. -/
  jumpUsesVx : Bool := false
  /-- Storing and loading registers moves the index behind the block. -/
  loadStoreIncrementsI : Bool := false
  deriving DecidableEq, Repr

/-- How an engine is set up. -/
structure Config where
  dialect : Dialect := {}
  timerMode : TimerMode := .perTick
  /-- Steps of the timers in a second, where they follow a clock. -/
  timerFrequency : Double := 60
  /-- Whether the timers run while the engine waits for a key. -/
  timersRunWhileWaiting : Bool := false

/-- The words for truth values in settings. -/
def truthText (b : Bool) : String := if b then "True" else "False"

/-- A dialect in one line. -/
def Dialect.text (d : Dialect) : String :=
  s!"Quirks(shift_uses_vy={truthText d.shiftUsesVy}, jump_uses_vx={truthText d.jumpUsesVx}, " ++
    s!"load_store_increments_i={truthText d.loadStoreIncrementsI})"

namespace Config

/-- Whether a number is above zero; a number that is none counts as above. -/
def isPositive : Quantity → Bool
  | .whole n => 0 < n
  | .real x => !x.isNonpositive

/-- The double nearest to a number. -/
def toDouble : Quantity → Except Error Double
  | .real x => .ok x
  | .whole n =>
    match Double.ofInt? n with
    | some x => .ok x
    | none => .error .beyondDoubles

/-- The configuration of given settings; the frequency is checked before the mode. -/
def parse (dialect : Dialect) (mode : String) (frequency : Quantity)
    (timersRunWhileWaiting : Bool) : Except Error Config := do
  if !isPositive frequency then
    throw (.frequencyRange frequency)
  let timerMode ← TimerMode.parse mode
  let timerFrequency ← toDouble frequency
  return { dialect, timerMode, timerFrequency, timersRunWhileWaiting }

/-- The settings, each with its name. -/
def settings (c : Config) : Settings := .ofList [
  ("quirks", c.dialect.text),
  ("timer_mode", c.timerMode.name),
  ("timer_frequency", Decimal.text c.timerFrequency),
  ("timers_run_while_waiting", truthText c.timersRunWhileWaiting)]

end Config

end Chip8
