import Chip8.Text.Hex

/-!
# Proofs/Digits — numbers are read back from their digits

Digits are read from the left, each for the base times the next; zeros in front count for nothing.
So a number in base sixteen is read back whatever the width it was filled out to
(`ofHexDigits_hexNat`), and two numbers written to one width have different texts.  Base ten is
the library's own.
-/

namespace Chip8.Text

/-- The value of a capital hexadecimal digit. -/
def hexValue (c : Char) : Nat := if c ≤ '9' then c.toNat - '0'.toNat else c.toNat - 'A'.toNat + 10

/-- The number that capital hexadecimal digits spell. -/
def ofHexDigits (digits : List Char) : Nat := digits.foldl (fun n c => 16 * n + hexValue c) 0

/-- A digit is read as what it was written for. -/
theorem hexValue_toUpper_digitChar : ∀ d < 16, hexValue d.digitChar.toUpper = d := by decide

theorem ofHexDigits_concat (digits : List Char) (c : Char) :
    ofHexDigits (digits ++ [c]) = 16 * ofHexDigits digits + hexValue c := by
  rw [ofHexDigits, List.foldl_append]
  rfl

theorem hexDigits_of_lt {n : Nat} (h : n < 16) : hexDigits n = [n.digitChar.toUpper] := by
  rw [hexDigits, Nat.toDigits_of_lt_base h]
  rfl

/-- The last digit of a number is its remainder by sixteen. -/
theorem hexDigits_of_le {n : Nat} (h : 16 ≤ n) :
    hexDigits n = hexDigits (n / 16) ++ [(n % 16).digitChar.toUpper] := by
  rw [hexDigits, Nat.toDigits_of_base_le (by decide) h, List.map_append]
  rfl

/-- **A number that was written is read back.** -/
theorem ofHexDigits_hexDigits (n : Nat) : ofHexDigits (hexDigits n) = n := by
  induction n using Nat.strongRecOn with
  | ind n ih =>
    by_cases h : n < 16
    · rw [hexDigits_of_lt h]
      have hvalue := hexValue_toUpper_digitChar n h
      simpa [ofHexDigits] using hvalue
    · rw [hexDigits_of_le (by omega), ofHexDigits_concat, ih (n / 16) (by omega),
        hexValue_toUpper_digitChar _ (by omega)]
      omega

/-- Zeros in front do not change a number. -/
theorem ofHexDigits_replicate_append (k : Nat) (digits : List Char) :
    ofHexDigits (List.replicate k '0' ++ digits) = ofHexDigits digits := by
  induction k with
  | zero => rfl
  | succ k ih => exact ih

/-- **A number is read back** from its text. -/
theorem ofHexDigits_hexNat (width n : Nat) : ofHexDigits (hexNat width n).toList = n := by
  rw [toList_hexNat, List.leftpad, ofHexDigits_replicate_append, ofHexDigits_hexDigits]

/-- Numbers with the same text are the same. -/
theorem hexNat_inj {width m n : Nat} : hexNat width m = hexNat width n ↔ m = n := by
  refine ⟨fun h => ?_, congrArg _⟩
  rw [← ofHexDigits_hexNat width m, h, ofHexDigits_hexNat]

/-- A number that fits its width fills it. -/
theorem length_hexNat {width n : Nat} (hwidth : 0 < width) (h : n < Nat.pow 16 width) :
    (hexNat width n).toList.length = width := by
  have hdigits : (hexDigits n).length ≤ width := by
    rw [hexDigits, List.length_map]
    exact (Nat.length_toDigits_le_iff (by decide) hwidth).2 h
  rw [toList_hexNat, List.length_leftpad, Nat.max_eq_left hdigits]

/-- Numbers in base ten are known by their texts. -/
theorem toList_toString_inj {m n : Nat} : (toString m).toList = (toString n).toList ↔ m = n := by
  refine ⟨fun h => ?_, fun h => by rw [h]⟩
  have hdigits : Nat.toDigits 10 m = Nat.toDigits 10 n := by
    simpa only [Nat.toString_eq_repr, Nat.toList_repr] using h
  rw [← Nat.ofDigitChars_ten_toDigits (n := m), hdigits, Nat.ofDigitChars_ten_toDigits]

end Chip8.Text
