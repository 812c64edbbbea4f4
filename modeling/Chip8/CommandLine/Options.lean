import Chip8.Text.Numeral
import Chip8.Text.Quoted

/-!
# CommandLine/Options — what a command line can ask for

The name of a program file and eight settings.  A `Setting` knows how it is spelled, whether it
takes a value, and what it does to the `Options`.  A value can be left blank; what needs it is
refused when it comes to that.
-/

namespace Chip8

/-- What a command line asks for; a value left blank is `none`. -/
structure Options where
  rom : String
  scale : Option Int := some 10
  ticksPerFrame : Option Int := some 10
  colorScheme : Option String := some "pink"
  clockTimers : Bool := false
  shiftUsesVy : Bool := false
  jumpUsesVx : Bool := false
  loadStoreIncrementsI : Bool := false
  logLevel : Option String := some "INFO"
  deriving DecidableEq, Repr

/-- The settings of a command line. -/
inductive Setting
  | help
  | scale
  | ticksPerFrame
  | colorScheme
  | clockTimers
  | shiftUsesVy
  | jumpUsesVx
  | loadStoreIncrementsI
  | logLevel
  deriving DecidableEq, Repr

namespace Setting

/-- The settings, in the order of the help text. -/
def all : List Setting :=
  [help, scale, ticksPerFrame, colorScheme, clockTimers, shiftUsesVy, jumpUsesVx,
    loadStoreIncrementsI, logLevel]

/-- How a setting is spelled. -/
def spellings : Setting → List String
  | help => ["-h", "--help"]
  | scale => ["--scale"]
  | ticksPerFrame => ["--ticks-per-frame"]
  | colorScheme => ["--color-scheme"]
  | clockTimers => ["--clock-timers"]
  | shiftUsesVy => ["--shift-uses-vy"]
  | jumpUsesVx => ["--jump-uses-vx"]
  | loadStoreIncrementsI => ["--load-store-increments-i"]
  | logLevel => ["--log-level"]

/-- The name of a setting in messages. -/
def title (s : Setting) : String := "/".intercalate s.spellings

/-- Whether a setting is followed by a value. -/
def takesValue : Setting → Bool
  | scale | ticksPerFrame | colorScheme | logLevel => true
  | _ => false

/-- All spellings, each with its setting. -/
def dictionary : List (String × Setting) :=
  all.flatMap fun s => s.spellings.map fun spelling => (spelling, s)

/-- The setting of a complete spelling. -/
def ofSpelling? (spelling : String) : Option Setting := dictionary.lookup spelling

/-- The spellings that a text is the beginning of. -/
def completions (beginning : String) : List (String × Setting) :=
  dictionary.filter fun (spelling, _) => beginning.toList.isPrefixOf spelling.toList

end Setting

/-- Why a command line is refused. -/
inductive Refusal
  /-- A shortened option can be completed in several ways. -/
  | ambiguous (given : String) (spellings : List String)
  /-- An option is not followed by its value. -/
  | valueMissing (setting : Setting)
  /-- An option that takes no value has one. -/
  | valueIgnored (setting : Setting) (value : String)
  /-- The value of an option is no integer. -/
  | notInteger (setting : Setting) (value : String)
  /-- No program file is named. -/
  | romMissing
  /-- Some arguments mean nothing. -/
  | unrecognized (arguments : List String)
  deriving DecidableEq, Repr

namespace Refusal

open Text in
/-- The text of a refusal. -/
def message : Refusal → String
  | ambiguous given spellings =>
    s!"ambiguous option: {given} could match " ++ ", ".intercalate spellings
  | valueMissing setting => s!"argument {setting.title}: expected one argument"
  | valueIgnored setting value =>
    s!"argument {setting.title}: ignored explicit argument {quoted value}"
  | notInteger setting value => s!"argument {setting.title}: invalid int value: {quoted value}"
  | romMissing => "the following arguments are required: rom"
  | unrecognized arguments => "unrecognized arguments: " ++ " ".intercalate arguments

end Refusal

/-- Why a command line is not acted on. -/
inductive Exit
  /-- The help text was asked for. -/
  | help
  | refused (refusal : Refusal)
  deriving DecidableEq, Repr

namespace Exit

/-- The exit code of the process. -/
def code : Exit → Nat
  | help => 0
  | refused _ => 2

/-- What is said on standard error, below the usage; arguments that are quoted may break the
line. -/
def message : Exit → String
  | help => ""
  | refused refusal => s!"chipvm: error: {refusal.message}"

/-- The last line on standard error. -/
def lastLine (e : Exit) : String := Text.lastLine e.message

end Exit

namespace Setting

/-- The value of a setting as an integer. -/
def integerValue (s : Setting) (value : String) : Except Exit Int :=
  match Text.integer? value with
  | some n => .ok n
  | none => .error (.refused (.notInteger s value))

/-- The options with a setting turned on, or set to a value. -/
def apply (s : Setting) (value : String) (o : Options) : Except Exit Options :=
  match s with
  | help => .error .help
  | scale => (s.integerValue value).map fun n => { o with scale := some n }
  | ticksPerFrame => (s.integerValue value).map fun n => { o with ticksPerFrame := some n }
  | colorScheme => .ok { o with colorScheme := some value }
  | clockTimers => .ok { o with clockTimers := true }
  | shiftUsesVy => .ok { o with shiftUsesVy := true }
  | jumpUsesVx => .ok { o with jumpUsesVx := true }
  | loadStoreIncrementsI => .ok { o with loadStoreIncrementsI := true }
  | logLevel => .ok { o with logLevel := some value }

/-- The options with the value of a setting left blank. -/
def leaveBlank (s : Setting) (o : Options) : Options :=
  match s with
  | scale => { o with scale := none }
  | ticksPerFrame => { o with ticksPerFrame := none }
  | colorScheme => { o with colorScheme := none }
  | logLevel => { o with logLevel := none }
  | _ => o

/-- The options with a setting set to what stands behind its equals sign; `--` leaves it blank. -/
def assign (s : Setting) (value : String) (o : Options) : Except Exit Options :=
  if value = "--" then .ok (s.leaveBlank o) else s.apply value o

end Setting

end Chip8
