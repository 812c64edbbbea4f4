import Chip8.Log.Logger

/-!
# Log/Console — one logger for each part of the emulator
-/

namespace Chip8

/-- The logger of each speaker. -/
structure Console where
  logger : Speaker → Logger

namespace Console

/-- The name under which a speaker logs. -/
def nameOf : Speaker → String
  | .engine => "Engine"
  | .debugger => "Debugger"
  | .window => "Frontend"

/-- A console where each speaker prints from a level on. -/
def ofLevels (level : Speaker → Level) (stamped : Bool) : Console where
  logger s := {
    name := nameOf s, threshold := level s, levelName := (level s).name, stamped }

/-- The printed lines of some entries. -/
def print (c : Console) (now : Double) (entries : List Entry) : List String :=
  entries.flatMap fun e => (c.logger e.speaker).write now e.level e.message

end Console

end Chip8
