import Chip8.CommandLine.Options

/-!
# CommandLine/Token — what each argument is, before any is acted on

An argument that starts with a hyphen is an option if it spells one, begins exactly one spelling, or
has either before an equals sign.  A lone hyphen, a negative number and anything with a blank in it
are plain words, and so is everything behind `--`.  `-h` may have more letters behind it, with or
without an equals sign between.
-/

namespace Chip8

/-- An argument, classified. -/
inductive Token
  | word (text : String)
  /-- The argument `--`, behind which all are words. -/
  | separator
  /-- An option, and the value given in the same argument. -/
  | option (setting : Setting) (value : Option String)
  /-- The short help option with letters behind it. -/
  | cluster (letters : List Char)
  /-- An option that there is not. -/
  | unknown (text : String)
  deriving DecidableEq, Repr

namespace Token

open Text

/-- Whether digits stand alone. -/
def allDigits (cs : List Char) : Bool := !cs.isEmpty && cs.all fun c => (digitValue? c).isSome

/-- Whether an argument looks like a negative number; one line feed may follow it. -/
def looksNegative (cs : List Char) : Bool :=
  let body := if cs.getLast? = some '\n' then cs.dropLast else cs
  match body with
  | '-' :: number =>
    allDigits number ||
      match number.dropWhile fun c => (digitValue? c).isSome with
      | '.' :: fraction => allDigits fraction
      | _ => false
  | _ => false

/-- An argument cut at its first equals sign. -/
def cutAtEquals (cs : List Char) : String × Option String :=
  let (name, rest) := cs.span (· != '=')
  (String.ofList name, rest.head?.map fun _ => String.ofList (rest.drop 1))

/-- An argument that neither spells nor begins an option. -/
def ofStray (argument : String) : Token :=
  let cs := argument.toList
  if looksNegative cs || cs.contains ' ' then .word argument else .unknown argument

/-- An argument of at least two characters that starts with a hyphen and spells no option. -/
def ofShortened (argument : String) : Except Exit Token :=
  let (name, value) := cutAtEquals argument.toList
  match argument.toList with
  | '-' :: '-' :: _ =>
    match Setting.completions name with
    | [(_, setting)] => .ok (.option setting value)
    | [] => .ok (ofStray argument)
    | several => .error (.refused (.ambiguous argument (several.map (·.1))))
  | '-' :: 'h' :: letters => .ok (.cluster letters)
  | _ => .ok (ofStray argument)

/-- The argument before an equals sign, if it spells an option. -/
def ofAssignment? (argument : String) : Option Token :=
  match cutAtEquals argument.toList with
  | (name, some value) =>
    match Setting.ofSpelling? name with
    | some .help =>
      some (if name = "-h" then .cluster value.toList else .option .help (some value))
    | some setting => some (.option setting (some value))
    | none => none
  | (_, none) => none

/-- An argument before `--`. -/
def ofArgument (argument : String) : Except Exit Token :=
  match argument.toList with
  | '-' :: _ :: _ =>
    match Setting.ofSpelling? argument, ofAssignment? argument with
    | some setting, _ => .ok (.option setting none)
    | none, some token => .ok token
    | none, none => ofShortened argument
  | _ => .ok (.word argument)

/-- All arguments, classified. -/
def ofArguments : List String → Except Exit (List Token)
  | [] => .ok []
  | argument :: rest =>
    if argument = "--" then .ok (.separator :: rest.map .word)
    else do
      let token ← ofArgument argument
      let tokens ← ofArguments rest
      return token :: tokens

end Token

end Chip8
