import Chip8.Error
import Chip8.Text.Uppercase

/-!
# Log/Entry — what the emulator has to say, before anyone prints it

The emulator's operations do not print.  They return entries — who speaks, how serious it is, and
the message — and a `Logger` turns those that matter into lines.
-/

namespace Chip8

/-- How serious a message is. -/
inductive Level
  | debug
  | info
  | warning
  | error
  | critical
  deriving DecidableEq, Repr

namespace Level

/-- The levels, least serious first. -/
def all : List Level := [debug, info, warning, error, critical]

/-- The place of a level among all levels. -/
def rank : Level → Nat
  | debug => 0
  | info => 1
  | warning => 2
  | error => 3
  | critical => 4

/-- The name of a level, in capitals. -/
def name : Level → String
  | debug => "DEBUG"
  | info => "INFO"
  | warning => "WARNING"
  | error => "ERROR"
  | critical => "CRITICAL"

/-- The level of a name in capitals. -/
def ofName? (name : String) : Option Level := all.find? (·.name == name)

/-- The level of a name in letters of any case. -/
def parse (name : String) : Except Error Level :=
  let capitals := Text.upper name
  match ofName? capitals with
  | some level => .ok level
  | none => .error (.unknownLevel capitals (all.map Level.name))

theorem ofName?_name (l : Level) : ofName? l.name = some l := by cases l <;> decide

end Level

/-- The parts of the emulator that write to the log. -/
inductive Speaker
  | engine
  | debugger
  | window
  deriving DecidableEq, Repr

/-- A message that is due, whether or not it will be printed. -/
structure Entry where
  speaker : Speaker
  level : Level
  message : String
  deriving DecidableEq, Repr

end Chip8
