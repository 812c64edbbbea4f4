import Chip8.CommandLine.Options

/-!
# CommandLine/Help — the help text, laid out in two columns

The usage line and the explanations are filled word by word into lines of at most 78 characters. An
explanation starts in column 24; it moves to the next line when what it explains reaches that far.
-/

namespace Chip8.Help

open Text

/-- How long a line may be. -/
def lineWidth : Nat := 78

/-- Where explanations start. -/
def column : Nat := 24

/-- Words filled into lines: `first` starts the first line and `others` every further one. -/
def fill (width : Nat) (others : String) : String → List String → List String
  | line, [] => [line]
  | line, word :: rest =>
    if line.length + word.length ≤ width then
      match rest with
      | [] => [line ++ word]
      | _ => fill width others (line ++ word ++ " ") rest
    else line :: fill width others (others ++ word ++ " ") rest

/-- Blanks. -/
def indent (width : Nat) : String := String.ofList (List.replicate width ' ')

/-- Words filled into lines, without blanks at the ends of lines. -/
def paragraph (first : String) (words : List String) : List String :=
  (fill lineWidth (indent first.length) first words).map fun line =>
    String.ofList (trimEnd (· == ' ') line.toList)

/-- The name of a setting's value. -/
def valueName : Setting → String
  | .scale => " SCALE"
  | .ticksPerFrame => " TICKS_PER_FRAME"
  | .colorScheme => " COLOR_SCHEME"
  | .logLevel => " LOG_LEVEL"
  | _ => ""

/-- What a setting is for. -/
def purpose : Setting → String
  | .help => "show this help message and exit"
  | .scale => "Pixel scale factor"
  | .ticksPerFrame => "Instructions executed per 60 Hz frame"
  | .colorScheme => "Color scheme name"
  | .clockTimers => "Count timers down at 60 Hz wall time instead of once per tick"
  | .shiftUsesVy => "8XY6/8XYE shift VY into VX"
  | .jumpUsesVx => "BXNN jumps to VX + NNN"
  | .loadStoreIncrementsI => "FX55/FX65 advance I"
  | .logLevel => "DEBUG, INFO, WARNING, ERROR or CRITICAL"

/-- A setting in the usage line, between brackets. -/
def usageItem (s : Setting) : String := "[" ++ s.spellings.headD "" ++ valueName s ++ "]"

/-- Something to explain, with its explanation. -/
def explained (subject explanation : String) : List String :=
  let left := "  " ++ subject
  let words := explanation.splitOn " "
  if left.length + 2 ≤ column then paragraph (left ++ indent (column - left.length)) words
  else left :: paragraph (indent column) words

/-- The lines that show how the program is called. -/
def usage : List String :=
  let start := "usage: chipvm "
  paragraph start (Setting.all.map usageItem) ++ [indent start.length ++ "rom"]

/-- The lines of the help text. -/
def lines : List String :=
  usage ++ ["", "Run a CHIP-8 ROM.", "", "positional arguments:"] ++
    explained "rom" "Path to a raw CHIP-8 ROM file" ++
    ["", "options:"] ++
    Setting.all.flatMap fun s =>
      explained (", ".intercalate (s.spellings.map (· ++ valueName s))) (purpose s)

end Chip8.Help
