import Chip8.CommandLine.Options
import Chip8.Debugger.Basic
import Chip8.Display.Frame

/-!
# Window/Basic — an engine behind a window, and what events do to it

The sixteen keys of the keypad lie under `1234`, `qwer`, `asdf` and `zxcv`.  The digits 0, 9, 8 and
7 choose the debugger's mode, `p` turns single steps on and off and `n` makes one, `m` lists the
memory and `o` the program, backspace starts over and escape closes the window.  A frame of the
window takes in its events, ticks the engine and shows the screen if it was drawn on.
-/

namespace Chip8

/-- What happens at a window. -/
inductive Event
  | keyDown (name : String)
  | keyUp (name : String)
  | quit
  /-- Anything else. -/
  | other
  deriving DecidableEq, Repr

namespace Event

/-- The key of the keypad under a key of the host. -/
def keypadKey? (name : String) : Option (Fin 16) :=
  List.lookup name [
    ("1", 0x1), ("2", 0x2), ("3", 0x3), ("4", 0xC),
    ("q", 0x4), ("w", 0x5), ("e", 0x6), ("r", 0xD),
    ("a", 0x7), ("s", 0x8), ("d", 0x9), ("f", 0xE),
    ("z", 0xA), ("x", 0x0), ("c", 0xB), ("v", 0xF)]

/-- The debugger's mode under a key of the host. -/
def debugKey? (name : String) : Option DebugMode :=
  List.lookup name [
    ("0", DebugMode.disabled), ("9", DebugMode.step), ("8", DebugMode.cpuInfo),
    ("7", DebugMode.opcodeInfo)]

end Event

/-- What a window is opened in. -/
structure Surroundings where
  /-- The memory for pictures. -/
  room : Room
  /-- Whether a window of some width and height can be opened. -/
  fits : Nat → Nat → Bool

/-- Surroundings that have as much memory and as large a screen as can be asked for. -/
def Surroundings.ample : Surroundings := ⟨.unlimited, fun _ _ => true⟩

/-- What a window shows and what lies behind it. -/
structure Window where
  rom : String
  /-- The memory for its pictures. -/
  room : Room
  scale : Int
  colorScheme : String
  /-- How many steps a frame makes, unless that was left blank. -/
  ticksPerFrame : Option Int
  program : List UInt8
  engine : Engine
  /-- What is on the window, until the next picture. -/
  surface : Frame
  debugger : Debugger := {}
  keypad : Keypad := {}
  /-- Whether the window stays open after this frame. -/
  running : Bool := true
  /-- The clock reading at the frame before. -/
  lastTime : Double := 0

namespace Window

/-- The title of the window. -/
def title (rom : String) : String := s!"chipvm - {rom}"

/-- The title of the window, with a mark while the buzzer sounds. -/
def caption (w : Window) : String :=
  title w.rom ++ if w.engine.isSounding then " [BEEP]" else ""

/-- Does something at the window's debugger, with the keypad beside it. -/
def atDebugger {α : Type} (x : Interaction (Debugger × Keypad) α) : Interaction Window α :=
  x.within (fun w => (w.debugger, w.keypad)) fun w y =>
    { w with debugger := y.1, keypad := y.2 }

/-- Makes a step of the engine through the debugger. -/
def step (elapsed : Option Double) : Interaction Window Unit := do
  let w ← Interaction.get
  let engine ← atDebugger (Debugger.step Keypad.keyboard elapsed w.engine)
  Interaction.modify fun w => { w with engine }

/-- Starts over with the same program. -/
def restart : Interaction Window Unit := do
  let w ← Interaction.get
  let engine ← w.engine.reset.load w.program
  Interaction.modify fun w => { w with engine }
  Interaction.say [⟨.window, .info, "Reset"⟩]

/-- What the keys beside keypad and modes do. -/
def command (name : String) : Interaction Window Unit := do
  let w ← Interaction.get
  match name with
  | "p" => atDebugger Debugger.toggleStep
  | "n" => if w.debugger.mode = .step then step none else pure ()
  | "m" => do
    let entries ← Debugger.printMemory w.engine 0 memorySize
    Interaction.say entries
  | "o" => Interaction.say (Debugger.printProgram w.program)
  | "backspace" => restart
  | _ => pure ()

/-- What a key does when it goes down. -/
def press (name : String) : Interaction Window Unit :=
  if name = "escape" then Interaction.modify fun w => { w with running := false }
  else
    match Event.keypadKey? name, Event.debugKey? name with
    | some key, _ => Interaction.modify fun w => { w with keypad := w.keypad.set key true }
    | none, some mode => atDebugger (Debugger.setMode mode)
    | none, none => command name

/-- What an event does. -/
def handle : Event → Interaction Window Unit
  | .keyDown name => press name
  | .keyUp name =>
    match Event.keypadKey? name with
    | some key => Interaction.modify fun w => { w with keypad := w.keypad.set key false }
    | none => pure ()
  | .quit => Interaction.modify fun w => { w with running := false }
  | .other => pure ()

/-- What events do, one after another. -/
def handleAll : List Event → Interaction Window Unit
  | [] => pure ()
  | event :: rest => do
    handle event
    handleAll rest

/-- Makes `n` steps; only the first counts the time that passed. -/
def steps : Nat → Double → Interaction Window Unit
  | 0, _ => pure ()
  | n + 1, elapsed => do
    step (some elapsed)
    steps n 0

/-- Shows the screen if it was drawn on. -/
def refresh : Interaction Window Unit := do
  let w ← Interaction.get
  let (engine, frame) ← w.engine.renderIfDirty w.room w.scale w.colorScheme
  Interaction.modify fun w => { w with engine, surface := frame.getD w.surface }

/-- A frame of the window, at the clock reading `now`. -/
def frame (events : List Event) (now : Double) : Interaction Window Unit := do
  handleAll events
  let w ← Interaction.get
  Interaction.modify fun w => { w with lastTime := now }
  if w.debugger.mode ≠ .step then
    match w.ticksPerFrame with
    | some n => steps n.toNat (now - w.lastTime)
    | none => Interaction.ofExcept (.error .blankTicks)
  refresh

end Window

end Chip8
