import Chip8.CommandLine.Token

/-!
# CommandLine/Parse — from arguments to options

The tokens are gone through once, from left to right: an option takes effect where it stands, the
first plain word names the program, and what is left over is collected.  Left-over arguments are
complained about last, a missing program just before.
-/

namespace Chip8

namespace CommandLine

/-- How far a command line was understood. -/
structure Progress where
  rom : Option String := none
  options : Options := { rom := "" }
  /-- Arguments that mean nothing. -/
  extras : List String := []

/-- A word that belongs to no option: the program, or an argument too many. -/
def Progress.takeWord (p : Progress) (text : String) : Progress :=
  match p.rom with
  | none => { p with rom := some text }
  | some _ => { p with extras := p.extras ++ [text] }

/-- An argument that means nothing. -/
def Progress.leave (p : Progress) (text : String) : Progress :=
  { p with extras := p.extras ++ [text] }

/-- What letters behind the short help option come to.  Every `h` asks for help again; from the
first other letter on they are a value, which help does not take. -/
def clusterExit : List Char → Exit
  | ['h'] => .help
  | 'h' :: rest => clusterExit rest
  | letters => .refused (.valueIgnored .help (String.ofList letters))

/-- Goes through the tokens. -/
def consume : List Token → Progress → Except Exit Progress
  | [], p => .ok p
  | .word text :: .separator :: rest, p =>
    if p.rom.isNone then consume rest (p.takeWord text)
    else consume rest ((p.leave text).leave "--")
  | .word text :: rest, p => consume rest (p.takeWord text)
  | .separator :: .word text :: rest, p =>
    if p.rom.isNone then consume rest (p.takeWord text)
    else consume rest ((p.leave "--").leave text)
  | .separator :: rest, p => consume rest (p.leave "--")
  | .unknown text :: rest, p => consume rest (p.leave text)
  | .cluster letters :: _, _ => .error (clusterExit letters)
  | .option setting (some value) :: rest, p =>
    if setting.takesValue then do
      let options ← setting.assign value p.options
      consume rest { p with options }
    else .error (.refused (.valueIgnored setting value))
  | .option setting none :: rest, p =>
    if setting.takesValue then
      match rest with
      | .word value :: rest => do
        let options ← setting.apply value p.options
        consume rest { p with options }
      | _ => .error (.refused (.valueMissing setting))
    else do
      let options ← setting.apply "" p.options
      consume rest { p with options }

/-- The options of a command line. -/
def parse (arguments : List String) : Except Exit Options := do
  let tokens ← Token.ofArguments arguments
  let p ← consume tokens {}
  match p.rom, p.extras with
  | none, _ => .error (.refused .romMissing)
  | some rom, [] => .ok { p.options with rom }
  | some _, extras => .error (.refused (.unrecognized extras))

end CommandLine

end Chip8
