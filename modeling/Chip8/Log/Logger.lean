import Chip8.Log.Entry
import Chip8.Log.Settings
import Chip8.Text.Align

/-!
# Log/Logger — how messages are printed

A logger prints the messages that reach its level, one line each: the seconds since it was made, the
level in a field of eight characters, its own name and the message.  On a terminal the level is
coloured.  The composite reports of an emulator's logger are lists of such messages.
-/

namespace Chip8

open Text

/-- What a printer of messages is set to. -/
structure Logger where
  name : String := "chipvm"
  /-- Messages below this level are not printed. -/
  threshold : Level := .info
  /-- The name of the level, for whoever asks. -/
  levelName : String := "INFO"
  /-- Whether levels are coloured. -/
  colored : Bool := false
  /-- Whether lines start with a timestamp. -/
  stamped : Bool := true
  /-- Whether the logger has the reports of several lines. -/
  reports : Bool := true
  /-- The clock reading when the logger was made, in seconds. -/
  start : Double := 0

namespace Logger

/-- The colour of a level on a terminal. -/
def color : Level → Nat
  | .debug => 36
  | .info => 32
  | .warning => 33
  | .error => 31
  | .critical => 35

/-- The seconds since the logger was made, between brackets. -/
def stamp (l : Logger) (now : Double) : String :=
  if l.stamped then s!"[{rightAlign 8 (Decimal.fixed 2 (now - l.start))}s]" else ""

/-- The level as a line shows it. -/
def tag (l : Logger) (level : Level) : String :=
  let plain := s!"[{rightAlign 8 level.name}]"
  if l.colored then s!"\x1b[{color level}m{plain}\x1b[0m" else plain

/-- The line of a message. -/
def line (l : Logger) (now : Double) (level : Level) (message : String) : String :=
  s!"{l.stamp now}{l.tag level}[{l.name}] {message}"

/-- Whether messages of a level are printed. -/
def prints (l : Logger) (level : Level) : Bool := l.threshold.rank ≤ level.rank

/-- The printed lines of a message: one, or none. -/
def write (l : Logger) (now : Double) (level : Level) (message : String) : List String :=
  if l.prints level then [l.line now level message] else []

/-- A logger on a terminal or elsewhere; colours are for terminals only. -/
def create (name level : String) (colors stamped reports terminal : Bool) (start : Double) :
    Except Error Logger := do
  let threshold ← Level.parse level
  return {
    name, threshold, levelName := threshold.name, colored := colors && terminal, stamped, reports
    start }

/-- What kind of logger it is. -/
def kind (l : Logger) : String := if l.reports then "EmulatorLogger" else "ConsoleLogger"

/-- Fails unless the logger has the reports, of which it is asked for one. -/
def demand (l : Logger) (report : String) : Except Error Unit :=
  if l.reports then .ok () else .error (.unknownCall l.kind report)

end Logger

/-! ## Reports of several lines -/

namespace Report

/-- The rule above and below the configuration. -/
def rule : String := String.ofList (List.replicate 60 '=')

/-- The configuration at the start, one setting a line. -/
def boot (settings : Settings) : List String :=
  [rule, "Booting CHIP-8 with configuration:"] ++
    settings.entries.map (fun (key, value) => s!"  {key}: {value}") ++ [rule]

/-- A program has been loaded. -/
def programLoaded (size : Int) : String := s!"{size} bytes loaded to memory"

/-- The program has stopped. -/
def halting (pc : Int) : String := s!"Halting at 0x{hexInt 3 pc}"

/-- An operation was refused, for an error of some kind. -/
def failure (title message : String) : String := s!"{title}: {message}"

end Report

end Chip8
