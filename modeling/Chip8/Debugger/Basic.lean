import Chip8.Debugger.Dump
import Chip8.Disassembly
import Chip8.Engine.Run

/-!
# Debugger/Basic — ticks that are counted, remembered and reported

The debugger advances the engine by plain ticks and never changes it otherwise.  It counts them,
keeps the program counter and word of each executed instruction, and reports in the words of its
mode: not at all, one line a step, the registers after every step, or the fields of the word.

The debugger is part of the host that its operations deal with.  They change it where they say so,
and a failure undoes nothing: what a step has counted or noted when it fails stays counted or noted.
-/

namespace Chip8

/-- What the debugger reports. -/
inductive DebugMode
  | disabled
  | step
  | cpuInfo
  | opcodeInfo
  deriving DecidableEq, Repr

namespace DebugMode

/-- The modes. -/
def all : List DebugMode := [disabled, step, cpuInfo, opcodeInfo]

/-- The name of a mode, as it is asked for. -/
def name : DebugMode → String
  | disabled => "disabled"
  | step => "step"
  | cpuInfo => "cpu_info"
  | opcodeInfo => "opcode_info"

/-- The name of a mode, as it is reported. -/
def title : DebugMode → String
  | disabled => "DISABLED"
  | step => "STEP"
  | cpuInfo => "CPU_INFO"
  | opcodeInfo => "OPCODE_INFO"

/-- The mode of a name. -/
def parse (name : String) : Except Error DebugMode :=
  match all.find? (·.name == name) with
  | some mode => .ok mode
  | none => .error (.unknownMember "DebugMode" name)

end DebugMode

/-- The debugger's own state. -/
structure Debugger where
  mode : DebugMode := .disabled
  /-- How many steps were made. -/
  steps : Nat := 0
  /-- Program counter and word of each executed instruction, oldest first. -/
  history : Array (Word × Word) := #[]
  deriving DecidableEq, Repr

namespace Debugger

variable {σ : Type}

open Text

/-- A message of the debugger for each line. -/
def entries (level : Level) (lines : List String) : List Entry :=
  lines.map fun line => ⟨.debugger, level, line⟩

/-- Whether steps are reported. -/
def enabled (d : Debugger) : Bool := d.mode != .disabled

/-- Changes the debugger. -/
def update (f : Debugger → Debugger) : Interaction (Debugger × σ) Unit :=
  Interaction.modify fun x => (f x.1, x.2)

/-- Does something with the host beside the debugger. -/
def aside {α : Type} (x : Interaction σ α) : Interaction (Debugger × σ) α :=
  x.within Prod.snd fun y s => (y.1, s)

/-- Chooses a mode, and announces it. -/
def setMode (mode : DebugMode) : Interaction (Debugger × σ) Unit := do
  update fun d => { d with mode }
  Interaction.say (entries .info [s!"DEBUG MODE: {mode.title}"])

/-- Turns reports of single steps on or off. -/
def toggleStep : Interaction (Debugger × σ) Unit := do
  let x ← Interaction.get
  setMode (if x.1.mode = .step then .disabled else .step)

/-- The report of a step that executed nothing. -/
def reportIdle (d : Debugger) (pc : Word) (after : Engine) : List String :=
  if d.enabled then
    let state := if after.halted then "halted" else "waiting for key"
    [s!"{d.steps} - 0x{hexNat 3 pc.toNat}: {state}"]
  else []

/-- The fields of a word, one after another. -/
def fieldsText (w : Word) : String :=
  s!"nibbles=({w.family.val}, {w.x.val}, {w.y.val}, {w.n.val}) " ++
    s!"nn=0x{hexNat 2 w.nn.toNat} nnn=0x{hexNat 3 w.nnn.val}"

/-- The report of a step that executed a word. -/
def reportWord (d : Debugger) (pc word : Word) (after : Engine) : List String :=
  let address := s!"0x{hexNat 3 pc.toNat}"
  let number := s!"0x{hexNat 4 word.toNat}"
  match d.mode with
  | .disabled => []
  | .step => [s!"{d.steps} - {address}: {word.describe}"]
  | .cpuInfo => s!"ADDR: {address} | OPCODE: {number}: {word.describe}" :: Dump.registers after
  | .opcodeInfo => [s!"{address}: {number} {fieldsText word}"]

/-- The word that a tick is about to execute, if it executes any. -/
def upcoming (e : Engine) : Except Fault (Option Word) :=
  if e.halted || e.waiting then .ok none else e.fetch.map some

/-- A tick of the engine, counted, remembered and reported. -/
def step (kb : Keyboard σ) (elapsed : Option Double) (e : Engine) :
    Interaction (Debugger × σ) Engine := do
  let fetched ← upcoming e
  let after ← aside (e.tick kb elapsed)
  update fun d => { d with steps := d.steps + 1 }
  match fetched with
  | none =>
    let x ← Interaction.get
    Interaction.say (entries .debug (x.1.reportIdle e.pc after))
  | some word =>
    update fun d => { d with history := d.history.push (e.pc, word) }
    let x ← Interaction.get
    Interaction.say (entries .debug (x.1.reportWord e.pc word after))
  return after

/-- The register dump as messages. -/
def printRegisters (e : Engine) : List Entry := entries .info (Dump.registers e)

/-- The memory dump as messages. -/
def printMemory (e : Engine) (start stop : Int) : Except Fault (List Entry) :=
  (Dump.memory e.machine.memory start stop).map (entries .info)

/-- The line of a program listing. -/
def listingLine (l : Listing) : String :=
  s!"0x{hexInt 3 l.address}: {hexNat 4 l.word.toNat}  {l.text}"

/-- A program listing as messages. -/
def printProgram (program : List UInt8) : List Entry :=
  entries .info ((disassemble programStart program).map listingLine)

end Debugger

end Chip8
