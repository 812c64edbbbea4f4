import Chip8.Interaction
import Chip8.Log.Logger

/-!
# Log/Printer — calls on a logger that prints

A call brings a message, a change of level or one of the composite reports.  Levels come by name,
and a name that is none of a level's is refused; nothing is set or printed then, because the name is
looked up before anything else is done.  Time passes between messages, whether or not they are
printed: `time i` is the clock reading at the message that comes as number `i`.
-/

namespace Chip8

/-- A logger at work. -/
structure Printer where
  logger : Logger
  /-- How many messages it was given. -/
  count : Nat := 0
  /-- The printed lines, oldest first. -/
  printed : List String := []

namespace Printer

variable (time : Nat → Double)

/-- Changes the level, and then the name of the level. -/
def setLevel (name : String) : Interaction Printer Unit := do
  let level ← Level.parse name
  Interaction.modify fun p => { p with logger.threshold := level }
  Interaction.modify fun p => { p with logger.levelName := level.name }

/-- Takes a message, and prints it if it reaches the level. -/
def receive (level : Level) (message : String) : Interaction Printer Unit :=
  Interaction.modify fun p => { p with
    count := p.count + 1
    printed := p.printed ++ p.logger.write (time p.count) level message }

/-- Takes a message under a level given by name; the name is put in capitals here, and once more
when it is looked up. -/
def log (name message : String) : Interaction Printer Unit := do
  let level ← Level.parse (Text.upper name)
  receive time level message

/-- Takes the messages of a report, which only an emulator's logger has. -/
def report (name : String) (level : Level) (messages : List String) :
    Interaction Printer Unit := do
  let p ← Interaction.get
  p.logger.demand name
  messages.forM (log time level.name)

/-- A call on a logger. -/
inductive Call
  | setLevel (level : String)
  /-- A message under a level given by name. -/
  | log (level message : String)
  /-- A message under a known level. -/
  | say (level : Level) (message : String)
  | boot (settings : Settings)
  | programLoaded (size : Int)
  | halting (pc : Int)
  /-- An error of some kind, with its message. -/
  | failure (title message : String)

/-- Performs a call. -/
def Call.perform : Call → Interaction Printer Unit
  | setLevel level => Printer.setLevel level
  | log level message => Printer.log time level message
  | say level message => Printer.log time level.name message
  | boot settings => report time "log_boot" .info (Report.boot settings)
  | programLoaded size => report time "log_program_loaded" .info [Report.programLoaded size]
  | halting pc => report time "log_halt" .info [Report.halting pc]
  | failure title message => report time "log_error" .error [Report.failure title message]

end Printer

end Chip8
