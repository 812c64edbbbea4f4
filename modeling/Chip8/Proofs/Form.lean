import Chip8.Instruction

/-!
# Proofs/Form — the documented forms of instruction words

An instruction set is documented by *forms*: `8xy4`, `Fx33`, `00E0`.  A form has four characters;
a capital hexadecimal digit stands for itself, a small letter for any digit.  Here the thirty-five
forms are data of their own (`forms`), and the decoder is held against them:

* `Instruction.ofWord?_eq_some_iff` — a word reads as an instruction exactly if it has the form of
  that instruction and its digits are the operands.
* `Instruction.ofWord?_eq_none_iff` — a word reads as nothing exactly if it has none of the forms.
-/

namespace Chip8

/-- The thirty-five forms. -/
def forms : List String := [
  "0000", "00E0", "00EE", "1nnn", "2nnn", "3xkk", "4xkk", "5xy0", "6xkk", "7xkk",
  "8xy0", "8xy1", "8xy2", "8xy3", "8xy4", "8xy5", "8xy6", "8xy7", "8xyE", "9xy0",
  "Annn", "Bnnn", "Cxkk", "Dxyn", "Ex9E", "ExA1",
  "Fx07", "Fx0A", "Fx15", "Fx18", "Fx1E", "Fx29", "Fx33", "Fx55", "Fx65"]

namespace Form

/-- The digit that a character of a form demands; a small letter demands none. -/
def digit? : Char → Option (Fin 16)
  | '0' => some 0x0
  | '1' => some 0x1
  | '2' => some 0x2
  | '3' => some 0x3
  | '4' => some 0x4
  | '5' => some 0x5
  | '6' => some 0x6
  | '7' => some 0x7
  | '8' => some 0x8
  | '9' => some 0x9
  | 'A' => some 0xA
  | 'B' => some 0xB
  | 'C' => some 0xC
  | 'D' => some 0xD
  | 'E' => some 0xE
  | 'F' => some 0xF
  | _ => none

/-- Whether a digit may stand where a form has a character. -/
def admits (c : Char) (d : Fin 16) : Bool := (digit? c).all (d == ·)

end Form

namespace Word

open Form in
/-- Whether a word has a form. -/
def hasForm (w : Word) (form : String) : Bool :=
  match form.toList with
  | [a, b, c, d] => admits a w.family && admits b w.x && admits c w.y && admits d w.n
  | _ => false

/-- Whether a word has one of some forms. -/
def hasFormIn (w : Word) (fs : List String) : Bool := fs.any w.hasForm

/-- A word of a form has one of any forms with that among them. -/
theorem hasFormIn_of_mem {w : Word} {f : String} {fs : List String} (hw : w.hasForm f)
    (hf : f ∈ fs) : w.hasFormIn fs :=
  List.any_eq_true.2 ⟨f, hf, hw⟩

/-! ## Digits -/

/-- A word is its four digits. -/
theorem toNat_digits (w : Word) :
    w.toNat = 4096 * w.family + 256 * w.x + 16 * w.y + w.n := by
  have h := w.toNat_lt
  simp only [family, x, y, n, digit]
  omega

/-- The last byte of a word is its last two digits. -/
theorem toNat_nn (w : Word) : w.nn.toNat = 16 * w.y + w.n := by
  have h := w.toNat_lt
  simp only [nn, y, n, digit, UInt8.toNat_ofNat']
  omega

end Word

/-! ## The form and the operands of an instruction -/

/-- The form of an operation on two registers. -/
def Operation.form : Operation → String
  | copy => "8xy0"
  | or => "8xy1"
  | and => "8xy2"
  | xor => "8xy3"
  | add => "8xy4"
  | subtract => "8xy5"
  | shiftRight => "8xy6"
  | subtractFrom => "8xy7"
  | shiftLeft => "8xyE"

namespace Instruction

/-- The form of an instruction. -/
def form : Instruction → String
  | halt => "0000"
  | clear => "00E0"
  | ret => "00EE"
  | jump _ => "1nnn"
  | call _ => "2nnn"
  | skipIfByte _ _ => "3xkk"
  | skipUnlessByte _ _ => "4xkk"
  | skipIfSame _ _ => "5xy0"
  | setByte _ _ => "6xkk"
  | addByte _ _ => "7xkk"
  | operate op _ _ => op.form
  | skipUnlessSame _ _ => "9xy0"
  | setIndex _ => "Annn"
  | jumpFrom _ _ => "Bnnn"
  | random _ _ => "Cxkk"
  | draw _ _ _ => "Dxyn"
  | skipIfPressed _ => "Ex9E"
  | skipUnlessPressed _ => "ExA1"
  | readDelay _ => "Fx07"
  | waitForKey _ => "Fx0A"
  | setDelay _ => "Fx15"
  | setSound _ => "Fx18"
  | addIndex _ => "Fx1E"
  | findGlyph _ => "Fx29"
  | storeDecimal _ => "Fx33"
  | storeRegisters _ => "Fx55"
  | loadRegisters _ => "Fx65"

/-- That the operands of an instruction are the digits of a word. -/
def OperandsOf (w : Word) : Instruction → Prop
  | halt | clear | ret => True
  | jump target | call target | setIndex target => target = w.nnn
  | skipIfByte x byte | skipUnlessByte x byte | setByte x byte | addByte x byte
  | random x byte => x = w.x ∧ byte = w.nn
  | skipIfSame x y | skipUnlessSame x y | operate _ x y => x = w.x ∧ y = w.y
  | jumpFrom x target => x = w.x ∧ target = w.nnn
  | draw x y height => x = w.x ∧ y = w.y ∧ height = w.n
  | skipIfPressed x | skipUnlessPressed x | readDelay x | waitForKey x | setDelay x | setSound x
  | addIndex x | findGlyph x | storeDecimal x | storeRegisters x | loadRegisters x => x = w.x

/-- The thirty-five instructions with operands from a word, in the order of `forms`. -/
def readings (w : Word) : List Instruction := [
  halt, clear, ret, jump w.nnn, call w.nnn, skipIfByte w.x w.nn, skipUnlessByte w.x w.nn,
  skipIfSame w.x w.y, setByte w.x w.nn, addByte w.x w.nn, operate .copy w.x w.y,
  operate .or w.x w.y, operate .and w.x w.y, operate .xor w.x w.y, operate .add w.x w.y,
  operate .subtract w.x w.y, operate .shiftRight w.x w.y, operate .subtractFrom w.x w.y,
  operate .shiftLeft w.x w.y, skipUnlessSame w.x w.y, setIndex w.nnn, jumpFrom w.x w.nnn,
  random w.x w.nn, draw w.x w.y w.n, skipIfPressed w.x, skipUnlessPressed w.x, readDelay w.x,
  waitForKey w.x, setDelay w.x, setSound w.x, addIndex w.x, findGlyph w.x, storeDecimal w.x,
  storeRegisters w.x, loadRegisters w.x]

/-- The readings of a word are one for each form. -/
theorem map_form_readings (w : Word) : (readings w).map form = forms := rfl

/-- A reading takes its operands from the word. -/
theorem operandsOf_of_mem_readings {w : Word} : ∀ i ∈ readings w, i.OperandsOf w := by
  simp [readings, OperandsOf]

/-- Every form is that of an instruction, whatever its operands shall be. -/
theorem exists_form_eq {f : String} (hf : f ∈ forms) (w : Word) :
    ∃ i : Instruction, i.form = f ∧ i.OperandsOf w := by
  rw [← map_form_readings w] at hf
  obtain ⟨i, hi, rfl⟩ := List.mem_map.1 hf
  exact ⟨i, rfl, operandsOf_of_mem_readings i hi⟩

/-- The form of an instruction is one of the thirty-five. -/
theorem form_mem_forms (i : Instruction) : i.form ∈ forms := by
  cases i with
  | operate op => cases op <;> simp [form, Operation.form, forms]
  | _ => simp [form, forms]

/-! ## The decoder reads forms

Both directions follow the definition of the decoder: its first match is on the leading digit, and
within four of the families a second one looks at the whole word, the low byte or the last digit. -/

section Decoder

attribute [local simp] Word.hasForm Form.admits Form.digit? form Operation.form OperandsOf

/-- **A word of the form of an instruction** is decoded to it, with its operands. -/
theorem ofWord?_of_hasForm {w : Word} {i : Instruction} (hi : i.OperandsOf w)
    (hw : w.hasForm i.form) : ofWord? w = some i := by
  cases i with
  | operate op x y =>
    obtain ⟨rfl, rfl⟩ := hi
    cases op <;> simp at hw <;> simp only [ofWord?, Operation.ofDigit?, hw] <;> rfl
  | _ =>
    simp at hi hw
    simp only [ofWord?, ofSystemWord?, ofKeyWord?, ofMiscWord?, Word.toNat_nn, Word.toNat_digits,
      hi, hw]
    rfl

theorem hasForm_of_ofSystemWord? {w : Word} {i : Instruction} (h : ofSystemWord? w = some i) :
    w.hasForm i.form ∧ i.OperandsOf w := by
  have hd := w.toNat_digits
  unfold ofSystemWord? at h
  split at h <;> cases h <;> simp <;> omega

theorem hasForm_of_ofKeyWord? {w : Word} {i : Instruction} (hf : w.family = 0xE)
    (h : ofKeyWord? w = some i) : w.hasForm i.form ∧ i.OperandsOf w := by
  have hb := w.toNat_nn
  unfold ofKeyWord? at h
  split at h <;> cases h <;> simp [hf] <;> omega

theorem hasForm_of_ofMiscWord? {w : Word} {i : Instruction} (hf : w.family = 0xF)
    (h : ofMiscWord? w = some i) : w.hasForm i.form ∧ i.OperandsOf w := by
  have hb := w.toNat_nn
  unfold ofMiscWord? at h
  split at h <;> cases h <;> simp [hf] <;> omega

theorem hasForm_of_ofDigit? {w : Word} {op : Operation} (hf : w.family = 0x8)
    (h : Operation.ofDigit? w.n = some op) : w.hasForm op.form := by
  unfold Operation.ofDigit? at h
  split at h <;> cases h <;> simp [*]

/-- **A word that is decoded to an instruction** has its form and its operands. -/
theorem hasForm_of_ofWord? {w : Word} {i : Instruction} (h : ofWord? w = some i) :
    w.hasForm i.form ∧ i.OperandsOf w := by
  unfold ofWord? at h
  split at h
  case h_1 => exact hasForm_of_ofSystemWord? h
  case h_6 | h_10 =>
    split at h <;> cases h
    simp [*]
    omega
  case h_9 hf =>
    obtain ⟨op, hop, rfl⟩ := Option.map_eq_some_iff.1 h
    exact ⟨hasForm_of_ofDigit? (Fin.ext hf) hop, rfl, rfl⟩
  case h_15 hf => exact hasForm_of_ofKeyWord? (Fin.ext hf) h
  case h_16 => exact hasForm_of_ofMiscWord? (by grind) h
  all_goals cases h; simp; omega

end Decoder

/-- **The decoder reads forms**: a word reads as an instruction exactly if it has its form and its
operands. -/
theorem ofWord?_eq_some_iff {w : Word} {i : Instruction} :
    ofWord? w = some i ↔ w.hasForm i.form ∧ i.OperandsOf w :=
  ⟨hasForm_of_ofWord?, fun h => ofWord?_of_hasForm h.2 h.1⟩

example : ofWord? 0x8AB4 = some (.operate .add 0xA 0xB) := by decide

/-- A word that reads as an instruction has the form of that instruction and no other. -/
theorem hasForm_iff_of_ofWord? {w : Word} {i : Instruction} (h : ofWord? w = some i) {f : String}
    (hf : f ∈ forms) : w.hasForm f ↔ i.form = f := by
  constructor
  · intro hw
    obtain ⟨j, rfl, hj⟩ := exists_form_eq hf w
    have hij := h.symm.trans (ofWord?_of_hasForm hj hw)
    rw [Option.some.inj hij]
  · rintro rfl
    exact (hasForm_of_ofWord? h).1

/-- Which of some forms a word has is a matter of its instruction. -/
theorem hasFormIn_eq_of_ofWord? {w : Word} {i : Instruction} (h : ofWord? w = some i)
    {fs : List String} (hfs : ∀ f ∈ fs, f ∈ forms) : w.hasFormIn fs = fs.contains i.form := by
  rw [Bool.eq_iff_iff, List.contains_iff_mem]
  constructor
  · intro hw
    obtain ⟨f, hf, hw⟩ := List.any_eq_true.1 hw
    obtain rfl := (hasForm_iff_of_ofWord? h (hfs f hf)).1 hw
    exact hf
  · exact Word.hasFormIn_of_mem (hasForm_of_ofWord? h).1

/-- **The decoder reads nothing else**: a word reads as nothing exactly if it has none of the
forms. -/
theorem ofWord?_eq_none_iff {w : Word} : ofWord? w = none ↔ ∀ f ∈ forms, ¬ w.hasForm f := by
  constructor
  · intro h f hf hw
    obtain ⟨i, rfl, hi⟩ := exists_form_eq hf w
    cases h.symm.trans (ofWord?_of_hasForm hi hw)
  · intro h
    rw [Option.eq_none_iff_forall_ne_some]
    exact fun i hi => h i.form (form_mem_forms i) (hasForm_of_ofWord? hi).1

end Instruction

end Chip8
