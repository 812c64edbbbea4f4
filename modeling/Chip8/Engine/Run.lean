import Chip8.Engine.Perform
import Chip8.Keyboard.Keypad

/-!
# Engine/Run — executing words, ticks and runs of ticks

`Engine.execute` reads a word as an instruction, asks for its key and performs it.  `Engine.tick` is
a step of a running program: a halted engine stays as it is, a waiting one asks for its key, and
otherwise the timers count and the word at the program counter is executed.
-/

namespace Chip8

namespace Engine

variable {σ : Type}

/-- Executes an instruction. -/
def executeInstruction (kb : Keyboard σ) (e : Engine) (i : Instruction) : Interaction σ Engine := do
  let pressed ← match e.keyAsked i with
    | some key => kb.ask key
    | none => pure false
  let (e, flow) ← e.perform pressed i
  e.proceed flow

/-- Executes a word. -/
def executeWord (kb : Keyboard σ) (e : Engine) (w : Word) : Interaction σ Engine :=
  match Instruction.ofWord? w with
  | some i => e.executeInstruction kb i
  | none => Interaction.ofExcept (.error (.fault (.unknownInstruction w e.pc)))

/-- Executes a word given as an integer. -/
def execute (kb : Keyboard σ) (e : Engine) (code : Int) : Interaction σ Engine := do
  let w ← Word.parse code
  e.executeWord kb w

/-- Executes a word where nobody is at the keyboard. -/
def executeUnattended (e : Engine) (code : Int) : Outcome Keypad Engine :=
  e.execute Keypad.keyboard code {}

/-- Asks a waiting engine's keyboard for the key, and goes on with it. -/
def resolveWait (kb : Keyboard σ) (e : Engine) : Interaction σ Engine := do
  match ← kb.poll with
  | none => return e
  | some key =>
    let text :=
      s!"Key {Text.hexInt 0 key} pressed, resuming into V{Text.hexInt 0 e.keyRegister}"
    Interaction.say [⟨.engine, .debug, text⟩]
    let registers ← Registers.setAt e.registers e.keyRegister (UInt8.ofInt key)
    return { e with registers, waiting := false }

/-- A step of the running program, `elapsed` seconds after the one before. -/
def tick (kb : Keyboard σ) (elapsed : Option Double) (e : Engine) : Interaction σ Engine :=
  if e.halted then pure e
  else if e.waiting then do
    let e ← if e.config.timersRunWhileWaiting then
        Interaction.ofExcept (e.countTimers elapsed)
      else pure e
    e.resolveWait kb
  else do
    let e ← e.countTimers elapsed
    let w ← e.fetch
    e.executeWord kb w

/-- At most `n` steps; with `stopOnHalt` none is made after a halt. -/
def run (kb : Keyboard σ) (elapsed : Option Double) (stopOnHalt : Bool) :
    Nat → Engine → Interaction σ Engine
  | 0, e => pure e
  | n + 1, e =>
    if stopOnHalt && e.halted then pure e
    else do
      let e ← e.tick kb elapsed
      run kb elapsed stopOnHalt n e

end Engine

end Chip8
