import Chip8.Proofs.Fits
import Mathlib.Algebra.Order.Floor.Ring
import Mathlib.Tactic.Linarith
import Mathlib.Tactic.LinearCombination

/-!
# Proofs/Exact — whole parts of doubles are taken off exactly

A finite double is a rational number (`Double.rational?`).  Its whole part has at most 53 places or
is the double itself, and what is left has no more places than the double; so both are doubles
(`Fits.isDouble_whole`, `Fits.isDouble_rest`).  A whole number that is a double is converted to it
(`Double.rational?_ofInt`), and a difference that is a double is not rounded
(`Double.rational?_sub`).  Together: a double less its whole part is its fraction, exactly
(`Double.rational?_sub_ofInt`).
-/

namespace Chip8

open Float.Model Float.Model.UnpackedFloat

variable {m : Nat} {e : Int}

/-! ## Doubles as rational numbers -/

namespace Binary64

/-- The rational number that a finite double is. -/
def rational? : Binary64 → Option ℚ
  | finite negative significand exponent =>
    let (num, den) := quotient significand exponent
    some ((if negative then -(num : ℚ) else num) / den)
  | infinite _ => none
  | notANumber => none

/-- A significand times a power of two is the quotient of two whole numbers. -/
theorem quotient_eq (m : Nat) (e : Int) :
    ((quotient m e).1 : ℚ) / (quotient m e).2 = m * 2 ^ e := by
  cases e with
  | ofNat e => simp [quotient, Nat.shiftLeft_eq]
  | negSucc e => simp [quotient, Nat.shiftLeft_eq, zpow_negSucc, div_eq_mul_inv]

/-- A finite double is its significand times a power of two, with its sign. -/
theorem rational?_finite (negative : Bool) (m : Nat) (e : Int) :
    (finite negative m e).rational? = some ((if negative then -1 else 1) * ((m : ℚ) * 2 ^ e)) := by
  rw [← quotient_eq]
  cases negative <;> simp [rational?, neg_div]

/-- The whole part of a magnitude is its floor. -/
theorem wholeMagnitude_eq (m : Nat) (e : Int) : (wholeMagnitude m e : Int) = ⌊(m : ℚ) * 2 ^ e⌋ := by
  rw [← quotient_eq, Rat.floor_natCast_div_natCast]
  rfl

end Binary64

namespace Double

variable {x y : Double} {p q : ℚ}

/-- The rational number that a finite double is. -/
def rational? (x : Double) : Option ℚ := x.value.rational?

/-- A double, unpacked. -/
def unpacked (x : Double) : UnpackedFloat := UnpackedFloat.unpack .binary64 x.bits.toBitVec

/-- The double that an unpacked number is packed as. -/
def ofUnpacked (u : UnpackedFloat) : Double := ⟨⟨UnpackedFloat.pack .binary64 u⟩⟩

theorem value_eq (x : Double) : x.value = .ofUnpacked x.unpacked := ofBits_eq_ofUnpacked x.bits

/-- A double is computed with as it is. -/
theorem unpack_toFloat (x : Double) : x.toFloat.toModel.unpack = x.unpacked := by
  have hpacked : x.toFloat.toModel.unpack = (ofUnpacked x.unpacked).unpacked := rfl
  rw [hpacked]
  cases h : x.unpacked with
  | zero s => exact unpack_packedZero s
  | finite s m e hpos => exact (fits_of_unpack h).unpack_pack s
  | infinity s => cases s <;> rfl
  | notANumber => rfl

theorem sub_eq (x y : Double) : x - y = ofUnpacked (.sub .binary64 x.unpacked y.unpacked) := by
  rw [← unpack_toFloat, ← unpack_toFloat y]
  rfl

theorem rational?_ofUnpacked_zero (s : Sign) : (ofUnpacked (.zero s)).rational? = some 0 := by
  cases s <;> decide +kernel

/-- A significand and an exponent that fit are the number they stand for. -/
theorem rational?_ofUnpacked_finite (h : Fits m e) :
    (ofUnpacked (.finite .positive m e h.pos)).rational? = some ((m : ℚ) * 2 ^ e) := by
  have hunpacked : (ofUnpacked (.finite .positive m e h.pos)).unpacked =
    .finite .positive m e h.pos := h.unpack_pack .positive
  rw [rational?, value_eq, hunpacked, ofUnpacked_finite, Binary64.rational?_finite]
  simp [isMinus]

/-- A double that is not below zero is unpacked to a zero, or to what fits it. -/
theorem unpacked_of_nonneg (hx : x.rational? = some p) (hp : 0 ≤ p) :
    (p = 0 ∧ ∃ s, x.unpacked = .zero s) ∨
      ∃ m e, ∃ h : Fits m e, x.unpacked = .finite .positive m e h.pos ∧ (m : ℚ) * 2 ^ e = p := by
  rw [rational?, value_eq] at hx
  cases hu : x.unpacked with
  | zero s =>
    rw [hu, ofUnpacked_zero, Binary64.rational?_finite] at hx
    have hzero := Option.some.inj hx
    exact .inl ⟨by simpa using hzero.symm, s, rfl⟩
  | finite s m e hpos =>
    have hfits := fits_of_unpack hu
    rw [hu, ofUnpacked_finite, Binary64.rational?_finite] at hx
    have hvalue := Option.some.inj hx
    cases s with
    | negative =>
      have hpositive := hfits.value_pos
      simp only [isMinus, if_true] at hvalue
      linarith
    | positive => exact .inr ⟨m, e, hfits, rfl, by simpa [isMinus] using hvalue⟩
  | infinity s =>
    rw [hu] at hx
    cases hx
  | notANumber =>
    rw [hu] at hx
    cases hx

theorem rational?_of_isZero (h : x.isZero) : x.rational? = some 0 := by
  have hcompare : (x.toFloat.toModel.unpack.compare (.zero .positive) == some .eq) = true := h
  rw [unpack_toFloat] at hcompare
  rw [rational?, value_eq]
  cases hu : x.unpacked with
  | zero s => cases s <;> decide +kernel
  | finite s m e hpos =>
    rw [hu] at hcompare
    cases s <;> cases hcompare
  | infinity s =>
    rw [hu] at hcompare
    cases s <;> cases hcompare
  | notANumber =>
    rw [hu] at hcompare
    cases hcompare

/-! ## Differences -/

/-- **Nothing is rounded** where the number is a double already. -/
theorem rational?_normalize {k : Int} (hk : (k : ℚ) * 2 ^ e = q) (h : IsDouble q) :
    (ofUnpacked (UnpackedFloat.normalize .binary64 k e .positive)).rational? = some q := by
  obtain rfl | ⟨m, e', hfits, rfl⟩ := h
  · have hpow : (2 : ℚ) ^ e ≠ 0 := zpow_ne_zero e two_ne_zero
    obtain rfl : k = 0 := by simpa [hpow] using hk
    exact rational?_ofUnpacked_zero .positive
  · rw [hfits.normalize_eq hk]
    exact rational?_ofUnpacked_finite hfits

/-- A significand under a smaller exponent stands for the same number. -/
theorem decreaseExponent_mul_zpow (m : Nat) {e e' : Int} (h : e' ≤ e) :
    ((decreaseExponent m e e').1 : ℚ) * 2 ^ e' = m * 2 ^ e := by
  obtain ⟨k, rfl⟩ : ∃ k : Nat, e' = e - k := ⟨(e - e').toNat, by omega⟩
  have hk : (e - (e - k)).toNat = k := by omega
  unfold decreaseExponent
  dsimp only
  rw [hk, shiftLeft_mul_zpow]

/-- **A difference that is a double** is not rounded. -/
theorem rational?_sub (hx : x.rational? = some p) (hy : y.rational? = some q) (hq : 0 ≤ q)
    (hle : q ≤ p) (h : IsDouble (p - q)) : (x - y).rational? = some (p - q) := by
  rw [sub_eq]
  obtain ⟨rfl, s, hu⟩ | ⟨m, e, hfits, hu, rfl⟩ := unpacked_of_nonneg hx (hq.trans hle)
  · obtain ⟨rfl, s', hu'⟩ | ⟨m', e', hfits', hu', rfl⟩ := unpacked_of_nonneg hy hq
    · rw [hu, hu', sub_zero]
      cases s <;> cases s' <;> decide +kernel
    · exact absurd hle (not_le.2 hfits'.value_pos)
  · obtain ⟨rfl, s', hu'⟩ | ⟨m', e', hfits', hu', rfl⟩ := unpacked_of_nonneg hy hq
    · rw [hu, hu', sub_zero]
      exact rational?_ofUnpacked_finite hfits
    · rw [hu, hu']
      let least := min e e'
      let k : Int := (decreaseExponent m e least).1 - (decreaseExponent m' e' least).1
      have hk : (k : ℚ) * 2 ^ least = m * 2 ^ e - m' * 2 ^ e' := by
        rw [Int.cast_sub, Int.cast_natCast, Int.cast_natCast, sub_mul,
          decreaseExponent_mul_zpow m (min_le_left e e'),
          decreaseExponent_mul_zpow m' (min_le_right e e')]
      exact rational?_normalize hk h

/-! ## Whole numbers -/

/-- A machine word that is a double is converted to it. -/
theorem unpack_ofUInt64 {n : UInt64} (h : Fits m e) (hn : (n.toNat : ℚ) = m * 2 ^ e) :
    n.toFloat.toModel.unpack = .finite .positive m e h.pos := by
  have hround : UnpackedFloat.normalize .binary64 n.toNat 0 .positive =
      .finite .positive m e h.pos := h.normalize_eq (by simpa using hn)
  have hpack : n.toFloat.toModel.unpack = UnpackedFloat.unpack .binary64
    (UnpackedFloat.pack .binary64 (UnpackedFloat.normalize .binary64 n.toNat 0 .positive)) := rfl
  rw [hpack, hround, h.unpack_pack]

/-- A number of at most 53 places is converted, and multiplied by one. -/
theorem ofInt_of_lt {n : Nat} (h : n < 2 * Binary64.hiddenBit) :
    ofInt n = ofUnpacked (.mul .binary64 n.toUInt64.toFloat.toModel.unpack
      (.finite .positive Binary64.hiddenBit (-52) (by decide))) := by
  have hofNat : Float.ofNat n = n.toUInt64.toFloat * Float.ofBits 0x3FF0000000000000 := by
    change Float.ofScientific n false 0 = _
    unfold Float.ofScientific
    rw [dif_pos ⟨h, by decide⟩]
    rfl
  change ofFloat (Float.ofNat n) = _
  rw [hofNat]
  rfl

theorem ofScientific_zero {n : Nat} (hn : n ≠ 0) : UnpackedFloat.ofScientific .binary64 n 0 =
    roundWithAccuracy .binary64 .positive (n <<< 53) (-53) .exact := by
  unfold UnpackedFloat.ofScientific
  have hbits : (2 : Int) ^ Format.binary64.exponentBits = 2048 := rfl
  rw [dif_neg hn, if_neg (by decide), if_neg (by omega), if_pos (Int.le_refl 0)]
  change roundWithAccuracy .binary64 .positive (n <<< 53 * 1) (-53) .exact = _
  rw [Nat.mul_one]

/-- A longer one is rounded. -/
theorem ofInt_of_le {n : Nat} (h : 2 * Binary64.hiddenBit ≤ n) :
    ofInt n = ofUnpacked (roundWithAccuracy .binary64 .positive (n <<< 53) (-53) .exact) := by
  have hn : n ≠ 0 := by
    rintro rfl
    exact absurd h (by decide)
  have hofNat : Float.ofNat n = .ofModel (Float.Model.ofScientific n 0) := by
    change Float.ofScientific n false 0 = _
    unfold Float.ofScientific
    rw [dif_neg fun hlt => absurd hlt.1 (Nat.not_lt.2 h)]
    rfl
  rw [← ofScientific_zero hn]
  change ofFloat (Float.ofNat n) = _
  rw [hofNat]
  rfl

/-- A whole number of at most 53 places is converted to the double it is. -/
theorem ofInt_of_fits_of_lt {n : Nat} (h : Fits m e) (hn : (n : ℚ) = m * 2 ^ e)
    (hlt : n < 2 * Binary64.hiddenBit) :
    ofInt n = ofUnpacked (.finite .positive m e h.pos) := by
  have hsize : n.toUInt64.toNat = n := Nat.mod_eq_of_lt (hlt.trans (by decide))
  have hunpack := unpack_ofUInt64 h (by rw [hsize, hn])
  have hmul : UnpackedFloat.mul .binary64 (.finite .positive m e h.pos)
      (.finite .positive Binary64.hiddenBit (-52) (by decide)) =
        roundWithAccuracy .binary64 .positive (m <<< 52) (e - (52 : Nat)) .exact := by
    rw [Nat.shiftLeft_eq]
    rfl
  rw [ofInt_of_lt hlt, hunpack, hmul, h.roundWithAccuracy_eq]

/-- So is a larger one, if it is a double. -/
theorem ofInt_of_fits_of_le {n : Nat} (h : Fits m e) (hn : (n : ℚ) = m * 2 ^ e)
    (hle : 2 * Binary64.hiddenBit ≤ n) : ofInt n = ofUnpacked (.finite .positive m e h.pos) := by
  have he : 0 ≤ e := by
    by_contra hneg
    have hpow : (2 : ℚ) ^ e ≤ 1 := zpow_le_one_of_nonpos₀ one_le_two (by omega)
    have hcast : (n : ℚ) ≤ m := by
      rw [hn]
      exact mul_le_of_le_one_right (Nat.cast_nonneg m) hpow
    exact absurd (h.lt.trans_le (hle.trans (by exact_mod_cast hcast))) (Nat.lt_irrefl m)
  obtain ⟨k, hk⟩ : ∃ k : Nat, e - k = -53 := ⟨(e + 53).toNat, by omega⟩
  have hshift : n <<< 53 = m <<< k := by
    refine eq_shiftLeft (e := e) ?_
    have hvalue := shiftLeft_mul_zpow n 53 0
    rw [zpow_zero, mul_one] at hvalue
    rw [hk, ← hn]
    exact hvalue
  rw [ofInt_of_le hle, hshift, ← hk, h.roundWithAccuracy_eq]

/-- **A whole number that is a double** is converted to it. -/
theorem rational?_ofInt {n : Nat} (h : IsDouble n) : (ofInt n).rational? = some (n : ℚ) := by
  obtain hzero | ⟨m, e, hfits, hn⟩ := h
  · obtain rfl : n = 0 := by exact_mod_cast hzero
    decide +kernel
  · rw [← hn]
    obtain hlt | hle := Nat.lt_or_ge n (2 * Binary64.hiddenBit)
    · rw [ofInt_of_fits_of_lt hfits hn.symm hlt]
      exact rational?_ofUnpacked_finite hfits
    · rw [ofInt_of_fits_of_le hfits hn.symm hle]
      exact rational?_ofUnpacked_finite hfits

end Double

/-! ## Whole parts -/

namespace Fits

/-- **The whole part of a double is a double.** -/
theorem isDouble_whole (h : Fits m e) : IsDouble (Binary64.wholeMagnitude m e) := by
  cases e with
  | ofNat k =>
    refine .inr ⟨m, .ofNat k, h, ?_⟩
    simp [Binary64.wholeMagnitude, Binary64.quotient, Nat.shiftLeft_eq]
  | negSucc k =>
    have hlt : Binary64.wholeMagnitude m (.negSucc k) < 2 * Binary64.hiddenBit :=
      (Nat.div_le_self _ _).trans_lt h.lt
    have hdouble := isDouble_of_lt (e := 0) hlt (by decide) (by decide)
    rwa [zpow_zero, mul_one] at hdouble

/-- **What is left without the whole part is a double.** -/
theorem isDouble_rest (h : Fits m e) : IsDouble (m * 2 ^ e - Binary64.wholeMagnitude m e) := by
  cases e with
  | ofNat k =>
    refine .inl ?_
    simp [Binary64.wholeMagnitude, Binary64.quotient, Nat.shiftLeft_eq]
  | negSucc k =>
    let d := 1 <<< (k + 1)
    have hpow : (d : ℚ) * 2 ^ Int.negSucc k = 1 := by
      simp [d, Nat.shiftLeft_eq, zpow_negSucc]
    have hdivision : (m : ℚ) = d * (m / d : Nat) + (m % d : Nat) := by
      exact_mod_cast (Nat.div_add_mod m d).symm
    have hrest : (m : ℚ) * 2 ^ Int.negSucc k - Binary64.wholeMagnitude m (.negSucc k) =
        (m % d : Nat) * 2 ^ Int.negSucc k := by
      change (m : ℚ) * 2 ^ Int.negSucc k - (m / d : Nat) = _
      linear_combination (2 ^ Int.negSucc k) * hdivision + ((m / d : Nat) : ℚ) * hpow
    rw [hrest]
    exact isDouble_of_lt ((Nat.mod_le _ _).trans_lt h.lt) h.least h.most

end Fits

namespace Double

variable {x : Double} {q : ℚ}

/-- The whole part that the clock takes off a double is its floor. -/
theorem wholePart_eq_floor (hx : x.rational? = some q) (hq : 0 ≤ q) :
    Seconds.wholePart x = .ok ⌊q⌋ := by
  simp only [Seconds.wholePart, value_eq]
  obtain ⟨rfl, s, hu⟩ | ⟨m, e, _, hu, rfl⟩ := unpacked_of_nonneg hx hq
  · rw [hu, Int.floor_zero]
    cases s <;> rfl
  · rw [hu, ← Binary64.wholeMagnitude_eq]
    rfl

/-- **A double less its whole part** is its fraction. -/
theorem rational?_sub_ofInt (hx : x.rational? = some q) (hq : 0 ≤ q) :
    (x - ofInt ⌊q⌋).rational? = some (Int.fract q) := by
  have hboth : ∃ n : Nat, ⌊q⌋ = n ∧ IsDouble n ∧ IsDouble (q - n) := by
    obtain ⟨rfl, s, hu⟩ | ⟨m, e, hfits, hu, rfl⟩ := unpacked_of_nonneg hx hq
    · exact ⟨0, by simp, .inl (by simp), .inl (by simp)⟩
    · exact ⟨_, (Binary64.wholeMagnitude_eq m e).symm, hfits.isDouble_whole, hfits.isDouble_rest⟩
  obtain ⟨n, hn, hwhole, hrest⟩ := hboth
  have hfract : Int.fract q = q - n := by
    rw [Int.fract, hn, Int.cast_natCast]
  have hle : (n : ℚ) ≤ q := by
    have hnonneg := Int.fract_nonneg q
    rw [hfract] at hnonneg
    exact sub_nonneg.1 hnonneg
  rw [hn, hfract]
  exact rational?_sub hx (rational?_ofInt hwhole) (Nat.cast_nonneg n) hle hrest

end Double

end Chip8
