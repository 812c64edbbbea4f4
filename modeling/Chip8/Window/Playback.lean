import Chip8.CommandLine.Parse
import Chip8.Log.Console
import Chip8.Window.Basic

/-!
# Window/Playback — a whole session at the window

A session is played from a script: for every frame a clock reading and the events that arrived.  A
fault of the machine ends the session with a report of the fault and the registers; any other error
ends it and is handed on.  When the script runs out the window is closed.
-/

namespace Chip8

/-- A frame of a script: the clock reading, unless it stands still, and the events. -/
structure Moment where
  time : Option Double := none
  events : List Event := []

/-- The moment at which a window is closed. -/
def closing : Moment := { events := [.quit] }

/-- What is seen at the end of a frame. -/
structure Shown where
  caption : String
  /-- The lines printed since the frame before. -/
  log : List String
  frame : Frame

/-- What a session showed and printed. -/
structure Playback where
  shown : List Shown := []
  /-- The lines printed after the last frame. -/
  log : List String := []
  /-- What ended the session, if it was not closed. -/
  error : Option Error := none

namespace Window

/-- The frames of a script, each with its clock reading and what came of it, up to the one that
closes the window or fails. -/
def outcomes : List Moment → Double → Window → List (Double × Outcome Window Unit)
  | [], _, _ => []
  | moment :: rest, clock, w =>
    let now := moment.time.getD clock
    let o := frame moment.events now w
    let later := match o.result with
      | .ok () => if o.host.running then outcomes rest now o.host else []
      | .error _ => []
    (now, o) :: later

/-- What is said of an error. -/
def complaint (e : Error) : Entry := ⟨.window, .error, Report.failure e.title e.message⟩

/-- What is said of a fault that ends the session. -/
def farewell (fault : Fault) (engine : Engine) : List Entry :=
  complaint (.fault fault) :: Debugger.printRegisters engine

/-- What frames showed and printed; `pending` are the lines printed before them. -/
def play (c : Console) : List String → List (Double × Outcome Window Unit) → Playback
  | pending, [] => { log := pending }
  | pending, (now, o) :: rest =>
    let lines := pending ++ c.print now o.log
    match o.result with
    | .ok () =>
      let shown : Shown := { caption := o.host.caption, log := lines, frame := o.host.surface }
      let later := play c [] rest
      { later with shown := shown :: later.shown }
    | .error (.fault fault) => { log := lines ++ c.print now (farewell fault o.host.engine) }
    | .error e => { log := lines, error := some e }

/-- The configuration that the options ask for. -/
def configOf (o : Options) : Config where
  dialect := {
    shiftUsesVy := o.shiftUsesVy
    jumpUsesVx := o.jumpUsesVx
    loadStoreIncrementsI := o.loadStoreIncrementsI }
  timerMode := if o.clockTimers then .clock else .perTick

/-- A side of a window: a number of 64 bits, of which the lowest 32 are taken, with their sign. -/
def side (length : Int) : Except Error Int :=
  if fitsSigned 64 length then .ok (length.bmod 0x100000000) else .error .uncountableWindow

/-- The width and the height of a window that can be opened at a scale. -/
def size (around : Surroundings) (scale : Int) : Except Error (Nat × Nat) := do
  let width ← side (screenWidth * scale)
  let height ← side (screenHeight * scale)
  if width < 0 ∨ height < 0 then
    throw .negativeWindow
  if !around.fits width.toNat height.toNat then
    throw .windowTooLarge
  return (width.toNat, height.toNat)

/-- The window for an engine; it has a size, and the dark colour of its scheme. -/
def create (around : Surroundings) (o : Options) (program : List UInt8) (engine : Engine) :
    Except Error Window := do
  let some scale := o.scale | throw .uncountableWindow
  let (width, height) ← size around scale
  let some colorScheme := o.colorScheme | throw .blankScheme
  let palette ← Palette.parse colorScheme
  let surface := Frame.plain width height palette.off
  return {
    rom := o.rom, room := around.room, scale, colorScheme, ticksPerFrame := o.ticksPerFrame
    program, engine, surface }

/-- The log level that the options ask for. -/
def levelOf (o : Options) : Except Error Level :=
  match o.logLevel with
  | none => .error .blankLevel
  | some name => Level.parse name

/-- A session with the program of a file, given what came of reading the file. -/
def session (around : Surroundings) (o : Options) (file : Except FileFailure (List UInt8))
    (script : List Moment) : Playback :=
  match levelOf o, file with
  | .error e, _ => { error := some e }
  | .ok _, .error cause => { error := some (.unreadable cause o.rom) }
  | .ok level, .ok program =>
    let c := Console.ofLevels (fun _ => level) true
    let engine : Engine := { config := configOf o }
    let boot := (Report.boot engine.config.settings).map fun line => ⟨.window, .info, line⟩
    let loaded := (engine.load program : Interaction Unit Engine) ()
    let lines := c.print 0 (boot ++ loaded.log)
    match loaded.result with
    | .error e => { log := lines ++ c.print 0 [complaint e] }
    | .ok engine =>
      match create around o program engine with
      | .error e => { log := lines, error := some e }
      | .ok w => play c lines (outcomes (script ++ [closing]) 0 w)

end Window

end Chip8
