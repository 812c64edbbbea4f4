import Chip8.Decimal.Plain
import Chip8.Proofs.Exact

/-!
# Proofs/Hundredths — numbers with two digits behind the point

The time stamp of a line shows a double in hundredths.  Which text that is can be told from the
number alone: the nearest hundredth, of two the even one (`Binary64.isNearest_roundEven`), with two
digits behind the point and the others in front of it (`ofList_withPoint`).
-/

namespace Chip8

/-- That a natural number is the nearest to a rational one, and of two the even one. -/
structure IsNearest (q : ℚ) (n : Nat) : Prop where
  le : |q - n| ≤ 1 / 2
  even : |q - n| = 1 / 2 → n % 2 = 0

section

variable {q fraction : ℚ} {n : Nat}

/-- The number below is the nearest one up to the middle, and in the middle if it is even. -/
theorem isNearest_of_lt_half (hq : q = n + fraction) (hfraction : 0 ≤ fraction)
    (h : fraction < 1 / 2 ∨ fraction = 1 / 2 ∧ n % 2 = 0) : IsNearest q n := by
  have hdistance : |q - n| = fraction := by
    rw [hq, add_sub_cancel_left, abs_of_nonneg hfraction]
  refine ⟨?_, fun htie => ?_⟩
  · rw [hdistance]
    exact h.elim le_of_lt fun h => h.1.le
  · rw [hdistance] at htie
    exact (h.resolve_left htie.not_lt).2

/-- The number above is the nearest one from the middle on, unless the number below is even. -/
theorem isNearest_succ (hq : q = n + fraction) (hfraction : fraction < 1)
    (h : 1 / 2 ≤ fraction) (hodd : fraction = 1 / 2 → n % 2 ≠ 0) : IsNearest q (n + 1) := by
  have habove : q - (n + 1 : Nat) = -(1 - fraction) := by
    rw [hq]
    push_cast
    ring
  have hdistance : |q - (n + 1 : Nat)| = 1 - fraction := by
    rw [habove, abs_neg, abs_of_nonneg (sub_nonneg.2 hfraction.le)]
  refine ⟨?_, fun htie => ?_⟩
  · rw [hdistance]
    linarith
  · rw [hdistance] at htie
    have hn : n % 2 ≠ 0 := hodd (by linarith)
    omega

end

namespace Binary64

/-- **Rounding takes the nearest number**, and of two the even one. -/
theorem isNearest_roundEven (num : Nat) {den : Nat} (hden : 0 < den) :
    IsNearest (num / den) (roundEven num den) := by
  have hpos : (0 : ℚ) < den := by exact_mod_cast hden
  obtain ⟨fraction, hfraction⟩ : ∃ f : ℚ, f = (num % den : Nat) / den := ⟨_, rfl⟩
  have hparts : (num : ℚ) / den = (num / den : Nat) + fraction := by
    rw [hfraction, div_eq_iff hpos.ne', add_mul, div_mul_cancel₀ _ hpos.ne']
    exact_mod_cast (Nat.div_add_mod' num den).symm
  have hbounds : 0 ≤ fraction ∧ fraction < 1 := by
    rw [hfraction, div_lt_one hpos]
    exact ⟨by positivity, by exact_mod_cast Nat.mod_lt num hden⟩
  -- the program compares twice the remainder with the denominator
  have hbelow : 2 * (num % den) < den ↔ fraction < 1 / 2 := by
    rw [hfraction, div_lt_div_iff₀ hpos two_pos, one_mul, mul_comm]
    exact_mod_cast Iff.rfl
  have hmiddle : 2 * (num % den) = den ↔ fraction = 1 / 2 := by
    rw [hfraction, div_eq_div_iff hpos.ne' two_ne_zero, one_mul, mul_comm]
    exact_mod_cast Iff.rfl
  rw [roundEven]
  simp only [Bool.or_eq_true, decide_eq_true_eq, Bool.and_eq_true, beq_iff_eq, hbelow, hmiddle]
  split
  · next hdown => exact isNearest_of_lt_half hparts hbounds.1 hdown
  · next hup =>
    obtain ⟨hnear, htie⟩ := not_or.1 hup
    exact isNearest_succ hparts hbounds.2 (not_lt.1 hnear) fun hequal heven => htie ⟨hequal, heven⟩

end Binary64

namespace Decimal

/-- A number of hundredths, with the whole ones before the point. -/
def hundredths (n : Nat) : String :=
  toString (n / 100) ++ "." ++ toString (n / 10 % 10) ++ toString (n % 10)

theorem toDigits_of_lt {n : Nat} (h : n < 10) : Nat.toDigits 10 n = [n.digitChar] :=
  Nat.toDigits_of_lt_base h

theorem toDigits_of_le {n : Nat} (h : 10 ≤ n) :
    Nat.toDigits 10 n = Nat.toDigits 10 (n / 10) ++ [(n % 10).digitChar] :=
  Nat.toDigits_of_base_le (by decide) h

/-- Of three digits or more the last two stand behind the point. -/
theorem withPoint_append {digits : List Char} {c d : Char} (h : digits ≠ []) :
    withPoint 2 (digits ++ [c, d]) = digits ++ ['.', c, d] := by
  have hlength : 3 ≤ (digits ++ [c, d]).length := by
    have := List.length_pos_of_ne_nil h
    simp only [List.length_append, List.length_cons, List.length_nil]
    omega
  have hfilled : (digits ++ [c, d]).leftpad 3 '0' = digits ++ [c, d] := by
    rw [List.leftpad, Nat.sub_eq_zero_of_le hlength]
    rfl
  rw [withPoint, hfilled]
  simp

/-- Below a whole one zeros are filled in. -/
theorem withPoint_of_lt : ∀ n < 100, withPoint 2 (Nat.toDigits 10 n) =
    ['0', '.', (n / 10 % 10).digitChar, (n % 10).digitChar] := by
  decide

/-- The digits of a number of hundredths, with the point put in, are the text of the hundredths. -/
theorem ofList_withPoint (n : Nat) : String.ofList (withPoint 2 (digitsOf n)) = hundredths n := by
  have htens : Nat.toDigits 10 (n / 10 % 10) = [(n / 10 % 10).digitChar] :=
    toDigits_of_lt (by omega)
  have hones : Nat.toDigits 10 (n % 10) = [(n % 10).digitChar] := toDigits_of_lt (by omega)
  refine String.toList_injective ?_
  simp only [hundredths, String.toList_append, Nat.toString_eq_repr, Nat.toList_repr, digitsOf,
    String.toList_ofList, htens, hones]
  by_cases hn : n < 100
  · rw [withPoint_of_lt n hn, Nat.div_eq_of_lt hn]
    rfl
  · have hdigits : Nat.toDigits 10 n =
        Nat.toDigits 10 (n / 100) ++ [(n / 10 % 10).digitChar, (n % 10).digitChar] := by
      rw [toDigits_of_le (by omega), toDigits_of_le (by omega), Nat.div_div_eq_div_mul,
        List.append_assoc]
      rfl
    rw [hdigits, withPoint_append Nat.toDigits_ne_nil]
    simp

end Decimal

/-- That a text shows a double in hundredths, the nearest ones. -/
def Double.ShowsHundredths (x : Double) (text : String) : Prop :=
  match x.value with
  | .finite negative significand exponent => ∃ n : Nat,
    IsNearest (significand * 2 ^ exponent * 100) n ∧
      text = (if negative then "-" else "") ++ Decimal.hundredths n
  | .infinite negative => text = if negative then "-inf" else "inf"
  | .notANumber => text = "nan"

/-- A finite double is a quotient by a positive number. -/
theorem Binary64.quotient_pos (m : Nat) (e : Int) : 0 < (quotient m e).2 := by
  cases e with
  | ofNat e => exact Nat.one_pos
  | negSucc e =>
    rw [quotient, Nat.one_shiftLeft]
    exact Nat.two_pow_pos _

/-- **A time stamp shows its seconds** in the nearest hundredths. -/
theorem Double.showsHundredths_fixed (x : Double) : x.ShowsHundredths (Decimal.fixed 2 x) := by
  unfold ShowsHundredths Decimal.fixed
  cases x.value with
  | finite negative m e =>
    have hnearest := Binary64.isNearest_roundEven ((Binary64.quotient m e).1 * 100)
      (Binary64.quotient_pos m e)
    rw [Nat.cast_mul, mul_div_right_comm, Binary64.quotient_eq] at hnearest
    refine ⟨_, hnearest, ?_⟩
    rw [← Decimal.ofList_withPoint]
    cases negative <;> simp [Decimal.sign, Nat.pow]
  | infinite negative => cases negative <;> rfl
  | notANumber => rfl

end Chip8
