import Chip8.Engine.Config
import Chip8.Interaction
import Chip8.Log.Logger
import Chip8.Machine.Basic
import Chip8.Random

/-!
# Engine/Basic — registers, timers and the machine under them

The state of the engine between two instructions, and the operations on it that execute none:
starting over, loading a program, fetching a word, counting the timers, and moving the program
counter as an instruction's `Flow` says.
-/

namespace Chip8

/-- The sixteen registers. -/
abbrev Registers := Vector UInt8 16

namespace Registers

/-- Registers are read by their numbers; there is one for every number. -/
instance getElem : GetElem Registers Register UInt8 fun _ _ => True where
  getElem v x _ := v.get x

/-- The registers with a byte in one of them. -/
def put (v : Registers) (x : Register) (byte : UInt8) : Registers := v.setIfInBounds x byte

@[simp] theorem getElem_put (v : Registers) (x k : Register) (byte : UInt8) :
    (v.put x byte)[k] = if k = x then byte else v[k] := by
  change (v.setIfInBounds x byte)[k.val] = _
  rw [Vector.getElem_setIfInBounds]
  simp only [Fin.ext_iff, eq_comm]
  rfl

/-- The number of a register that an integer stands for.  Below zero it counts back from behind the
last register; what it then comes to has to fit 64 bits, of which the lowest 32 count. -/
def number (k : Int) : Except Error Int :=
  let n := if k < 0 then k + 16 else k
  if -0x8000000000000000 ≤ n ∧ n < 0x10000000000000000 then .ok (n.bmod 0x100000000)
  else .error .tooWide

/-- The registers with a byte in the one that an integer stands for.  There may be no such register;
then nothing is written. -/
def setAt (r : Registers) (k : Int) (value : UInt8) : Except Error Registers :=
  (number k).map fun n => if n < 0 then r else r.setIfInBounds n.toNat value

theorem number_of_lt {n : Nat} (h : n < 16) : number n = .ok n := by
  have hn : ¬ (n : Int) < 0 := by omega
  have hb : (n : Int).bmod 0x100000000 = n := by rw [Int.bmod_def]; omega
  simp only [number, hn, if_false, hb]
  rw [if_pos (by omega)]

end Registers

/-- The state of the engine. -/
structure Engine where
  random : RandomKey := {}
  machine : Machine := {}
  registers : Registers := .replicate 16 0
  index : UInt16 := 0
  pc : Word := 0x200
  timers : Timers Double := { accumulator := 0 }
  /-- Whether execution waits for a key. -/
  waiting : Bool := false
  /-- Which register the awaited key goes into, as `Registers.number` reads it. -/
  keyRegister : Int := 0
  halted : Bool := false
  config : Config := {}

/-- Where the program counter goes after an instruction. -/
inductive Flow
  | next
  | skip
  | jump (target : Int)
  | halt
  deriving DecidableEq, Repr

namespace Flow

/-- The flow of a name; the target is for jumps. -/
def parse (name : String) (target : Int) : Except Error Flow :=
  match name with
  | "next" => .ok next
  | "skip" => .ok skip
  | "jump" => .ok (jump target)
  | "halt" => .ok halt
  | _ => .error (.unknownMember "Action" name)

/-- A skip if a condition holds. -/
def skipIf (condition : Bool) : Flow := if condition then skip else next

/-- What there is to say of a flow at a program counter. -/
def entries (pc : Word) : Flow → List Entry
  | halt => [⟨.engine, .info, Report.halting pc.toNat⟩]
  | _ => []

end Flow

namespace Engine

variable {σ : Type}

/-- The engine as it starts, with the same configuration and random key. -/
def reset (e : Engine) : Engine := { random := e.random, config := e.config }

/-- The engine with a program in memory; nothing else changes. -/
def withProgram (e : Engine) (program : List UInt8) : Except Fault Engine :=
  (e.machine.load program).map fun machine => { e with machine }

/-- Loads a program. -/
def load (e : Engine) (program : List UInt8) : Interaction σ Engine := do
  let e ← e.withProgram program
  Interaction.say [⟨.engine, .info, Report.programLoaded program.length⟩]
  return e

/-- Loads a program from a file, given what came of reading the file. -/
def loadFile (e : Engine) (name : String) (contents : Except FileFailure (List UInt8)) :
    Interaction σ Engine :=
  match contents with
  | .error cause => Interaction.ofExcept (.error (.unreadable cause name))
  | .ok program => do
    Interaction.say [⟨.engine, .info, s!"Loading ROM {name}"⟩]
    e.load program

/-- The word at the program counter. -/
def fetch (e : Engine) : Except Fault Word := e.machine.word e.pc.toNat

/-- Whether the buzzer sounds. -/
def isSounding (e : Engine) : Bool := 0 < e.timers.sound.toNat

/-- The engine with its timers counted down. -/
def countTimers (e : Engine) (elapsed : Option Double) : Except Error Engine :=
  (e.timers.advance e.config.timerMode e.config.timerFrequency elapsed).map fun timers =>
    { e with timers }

/-- The engine with its program counter moved. -/
def follow (e : Engine) : Flow → Engine
  | .next => { e with pc := e.pc + 2 }
  | .skip => { e with pc := e.pc + 4 }
  | .jump target => { e with pc := UInt16.ofInt target }
  | .halt => { e with halted := true }

/-- Moves the program counter; a halt is logged. -/
def proceed (e : Engine) (flow : Flow) : Interaction σ Engine := do
  Interaction.say (flow.entries e.pc)
  return e.follow flow

end Engine

end Chip8
