import Chip8.Text.Hex
import Chip8.Word

/-!
# Disassembly — the assembly text of words

A word is named by the first row of `mnemonics` that it matches: a row says which bits it looks at,
what they must be, and how the other bits are written.  A word that matches no row is written as a
number.  The table knows nothing of the engine; that the two recognise the same words is a fact
about them.
-/

namespace Chip8

/-- A row of the table: the words that equal `pattern` on the bits of `mask`, and their text. -/
structure Mnemonic where
  mask : Word
  pattern : Word
  text : Word → String

namespace Mnemonic

open Text

/-- Whether a word belongs to a row. -/
def covers (m : Mnemonic) (w : Word) : Bool := w &&& m.mask == m.pattern

/-- The name of register `x`. -/
def vx (w : Word) : String := s!"V{hexNat 1 w.x.val}"

/-- The name of register `y`. -/
def vy (w : Word) : String := s!"V{hexNat 1 w.y.val}"

/-- The byte operand. -/
def byte (w : Word) : String := s!"0x{hexNat 2 w.nn.toNat}"

/-- The address operand. -/
def address (w : Word) : String := s!"0x{hexNat 3 w.nnn.val}"

/-- The rows, one for each instruction. -/
def table : List Mnemonic := [
  ⟨0xFFFF, 0x0000, fun _ => "HALT"⟩,
  ⟨0xFFFF, 0x00E0, fun _ => "CLS"⟩,
  ⟨0xFFFF, 0x00EE, fun _ => "RET"⟩,
  ⟨0xF000, 0x1000, fun w => s!"JP {address w}"⟩,
  ⟨0xF000, 0x2000, fun w => s!"CALL {address w}"⟩,
  ⟨0xF000, 0x3000, fun w => s!"SE {vx w}, {byte w}"⟩,
  ⟨0xF000, 0x4000, fun w => s!"SNE {vx w}, {byte w}"⟩,
  ⟨0xF00F, 0x5000, fun w => s!"SE {vx w}, {vy w}"⟩,
  ⟨0xF000, 0x6000, fun w => s!"LD {vx w}, {byte w}"⟩,
  ⟨0xF000, 0x7000, fun w => s!"ADD {vx w}, {byte w}"⟩,
  ⟨0xF00F, 0x8000, fun w => s!"LD {vx w}, {vy w}"⟩,
  ⟨0xF00F, 0x8001, fun w => s!"OR {vx w}, {vy w}"⟩,
  ⟨0xF00F, 0x8002, fun w => s!"AND {vx w}, {vy w}"⟩,
  ⟨0xF00F, 0x8003, fun w => s!"XOR {vx w}, {vy w}"⟩,
  ⟨0xF00F, 0x8004, fun w => s!"ADD {vx w}, {vy w}"⟩,
  ⟨0xF00F, 0x8005, fun w => s!"SUB {vx w}, {vy w}"⟩,
  ⟨0xF00F, 0x8006, fun w => s!"SHR {vx w} [, {vy w}]"⟩,
  ⟨0xF00F, 0x8007, fun w => s!"SUBN {vx w}, {vy w}"⟩,
  ⟨0xF00F, 0x800E, fun w => s!"SHL {vx w} [, {vy w}]"⟩,
  ⟨0xF00F, 0x9000, fun w => s!"SNE {vx w}, {vy w}"⟩,
  ⟨0xF000, 0xA000, fun w => s!"LD I, {address w}"⟩,
  ⟨0xF000, 0xB000, fun w => s!"JP V0, {address w}"⟩,
  ⟨0xF000, 0xC000, fun w => s!"RND {vx w}, {byte w}"⟩,
  ⟨0xF000, 0xD000, fun w => s!"DRW {vx w}, {vy w}, {w.n.val}"⟩,
  ⟨0xF0FF, 0xE09E, fun w => s!"SKP {vx w}"⟩,
  ⟨0xF0FF, 0xE0A1, fun w => s!"SKNP {vx w}"⟩,
  ⟨0xF0FF, 0xF007, fun w => s!"LD {vx w}, DT"⟩,
  ⟨0xF0FF, 0xF00A, fun w => s!"LD {vx w}, K"⟩,
  ⟨0xF0FF, 0xF015, fun w => s!"LD DT, {vx w}"⟩,
  ⟨0xF0FF, 0xF018, fun w => s!"LD ST, {vx w}"⟩,
  ⟨0xF0FF, 0xF01E, fun w => s!"ADD I, {vx w}"⟩,
  ⟨0xF0FF, 0xF029, fun w => s!"LD F, {vx w}"⟩,
  ⟨0xF0FF, 0xF033, fun w => s!"LD B, {vx w}"⟩,
  ⟨0xF0FF, 0xF055, fun w => s!"LD [I], {vx w}"⟩,
  ⟨0xF0FF, 0xF065, fun w => s!"LD {vx w}, [I]"⟩]

/-- The text of a word that is no instruction. -/
def number (w : Word) : String := s!"0x{hexNat 4 w.toNat}"

end Mnemonic

namespace Word

/-- The assembly text of a word. -/
def describe (w : Word) : String :=
  match Mnemonic.table.find? (·.covers w) with
  | some m => m.text w
  | none => Mnemonic.number w

end Word

/-- A line of a program listing. -/
structure Listing where
  address : Int
  word : Word
  text : String
  deriving DecidableEq, Repr

/-- The words of a program, the first of them at `start`; a last odd byte is left out. -/
def disassemble (start : Int) : List UInt8 → List Listing
  | high :: low :: rest =>
    let word := Word.ofBytes high low
    ⟨start, word, word.describe⟩ :: disassemble (start + 2) rest
  | _ => []

end Chip8
