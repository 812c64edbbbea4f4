import Chip8.CommandLine.Help
import Chip8.Window.Playback

/-!
# Main — the command line

Plays a program without a display, so no window is too large for it.  Every line of standard input
is a frame, a sixtieth of a second after the one before; its words are events: `+q` for a key that
goes down, `-q` for one that goes up, and `quit`.  The log goes to standard output, and after it the
title and the last picture.
-/

namespace Chip8.CommandLine

/-- The event of a word. -/
def eventOfWord (word : String) : Event :=
  match word.toList with
  | '+' :: key => .keyDown (String.ofList key)
  | '-' :: key => .keyUp (String.ofList key)
  | _ => if word = "quit" then .quit else .other

/-- The moment of a line, the `k`-th of a script. -/
def momentOfLine (k : Nat) (line : String) : Moment where
  time := some (.ofFloat (Float.ofNat k / 60))
  events := (line.splitOn " ").map eventOfWord

/-- The script of some lines. -/
def scriptOfLines (lines : List String) : List Moment :=
  lines.zipIdx.map fun (line, k) => momentOfLine k line

/-- A pixel as a character: the colours of lit and dark pixels are told apart by brightness. -/
def pixelText (c : Color) : Char :=
  if 128 ≤ max c.red.toNat (max c.green.toNat c.blue.toNat) then '#' else '.'

/-- A frame in characters, one for each square of the scale. -/
def frameText (scale : Nat) (f : Frame) : List String :=
  let every {α : Type} (xs : List α) : List α :=
    xs.zipIdx.filterMap fun (x, k) => if k % scale == 0 then some x else none
  (every f.rows).map fun row => String.ofList ((every row).map pixelText)

/-- Why the system refused to read a file. -/
def failureOf : IO.Error → FileFailure
  | .inappropriateType .. => .isFolder
  | _ => .missing

/-- The bytes of a file, if it can be read. -/
def readProgram (name : String) : IO (Except FileFailure (List UInt8)) := do
  try
    let contents ← IO.FS.readBinFile name
    return .ok contents.toList
  catch e => return .error (failureOf e)

/-- The lines of a stream. -/
partial def readLines (stream : IO.FS.Stream) (lines : Array String) : IO (Array String) := do
  let line ← stream.getLine
  if line.isEmpty then return lines
  readLines stream (lines.push (line.trimAscii.toString))

/-- Plays a program as the options ask, and gives the exit code. -/
def play (o : Options) : IO UInt32 := do
  let program ← readProgram o.rom
  let lines ← readLines (← IO.getStdin) #[]
  let p := Window.session .ample o program (scriptOfLines lines.toList)
  for s in p.shown do
    s.log.forM IO.println
  p.log.forM IO.println
  match p.error with
  | some e =>
    IO.eprintln s!"{e.title}: {e.message}"
    return 1
  | none =>
    if let some last := p.shown.getLast? then
      IO.println last.caption
      (frameText ((o.scale.getD 0).toNat) last.frame).forM IO.println
    return 0

end Chip8.CommandLine

/-- The command line. -/
def main (arguments : List String) : IO UInt32 := do
  match Chip8.CommandLine.parse arguments with
  | .ok options => Chip8.CommandLine.play options
  | .error exit =>
    if exit = .help then
      Chip8.Help.lines.forM IO.println
    else
      Chip8.Help.usage.forM IO.eprintln
      IO.eprintln exit.message
    return exit.code.toUInt32
