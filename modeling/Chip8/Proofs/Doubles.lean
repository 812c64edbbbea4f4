import Chip8.Timers

/-!
# Proofs/Doubles — sums and products of doubles that are not below zero

Doubles are unpacked into a sign, a significand and an exponent, then added or multiplied, rounded
and packed again.  Neither rounding nor packing changes a sign (`NotBelowZero.add`,
`NotBelowZero.mul`, `notBelowZero_unpack_pack`), and the sign that is packed is the sign that is
read (`isBelowZero_ofBits`).  So a sum or a product of doubles that are not below zero is not below
zero, and neither is its whole part.  What is no number counts as not below zero.
-/

namespace Chip8

open Float.Model Float.Model.UnpackedFloat

/-- Whether a number is below zero.  A zero is not, whatever its sign. -/
def Binary64.isBelowZero : Binary64 → Bool
  | finite negative significand _ => negative && significand != 0
  | infinite negative => negative
  | notANumber => false

/-- Whether a double is below zero. -/
def Double.isBelowZero (x : Double) : Bool := x.value.isBelowZero

/-! ## Unpacked numbers -/

/-- That an unpacked number is not below zero. -/
inductive NotBelowZero : UnpackedFloat → Prop
  | notANumber : NotBelowZero .notANumber
  | zero (s : Sign) : NotBelowZero (.zero s)
  | infinity : NotBelowZero (.infinity .positive)
  | finite (m : Nat) (e : Int) (h : 0 < m) : NotBelowZero (.finite .positive m e h)

variable {x y : UnpackedFloat} {spec : Format}

theorem NotBelowZero.dite {c : Prop} [Decidable c] {x : c → UnpackedFloat} {y : ¬ c → UnpackedFloat}
    (hx : ∀ h, NotBelowZero (x h)) (hy : ∀ h, NotBelowZero (y h)) :
    NotBelowZero (if h : c then x h else y h) := by
  by_cases h : c
  · rw [dif_pos h]
    exact hx h
  · rw [dif_neg h]
    exact hy h

theorem NotBelowZero.ite {c : Prop} [Decidable c] (hx : NotBelowZero x) (hy : NotBelowZero y) :
    NotBelowZero (if c then x else y) :=
  .dite (fun _ => hx) fun _ => hy

/-- To round keeps the sign. -/
theorem notBelowZero_roundWithAccuracy (m : Nat) (e : Int) (a : Accuracy) :
    NotBelowZero (roundWithAccuracy spec .positive m e a) := by
  unfold roundWithAccuracy
  exact .dite (fun _ => .zero _) fun _ => .finite _ _ _

/-- Rounding a number that is not negative gives none that is below zero. -/
theorem notBelowZero_normalize {m : Int} (hm : 0 ≤ m) (e : Int) (s : Sign) :
    NotBelowZero (UnpackedFloat.normalize spec m e s) := by
  unfold UnpackedFloat.normalize
  split
  · next hlt => exact absurd (Int.compare_eq_lt.1 hlt) (by omega)
  · exact .zero s
  · exact notBelowZero_roundWithAccuracy _ _ _

/-- A product of numbers that are not below zero is not below zero. -/
theorem NotBelowZero.mul (hx : NotBelowZero x) (hy : NotBelowZero y) :
    NotBelowZero (UnpackedFloat.mul spec x y) := by
  rcases hx with _ | s | _ | ⟨m, e, h⟩
  · exact .notANumber
  · rcases hy with _ | s' | _ | ⟨m', e', h'⟩
    · exact .notANumber
    · exact .zero _
    · exact .notANumber
    · exact .zero _
  · rcases hy with _ | s' | _ | ⟨m', e', h'⟩
    · exact .notANumber
    · exact .notANumber
    · exact .infinity
    · exact .infinity
  · rcases hy with _ | s' | _ | ⟨m', e', h'⟩
    · exact .notANumber
    · exact .zero _
    · exact .infinity
    · exact notBelowZero_roundWithAccuracy _ _ _

/-- A sum of numbers that are not below zero is not below zero. -/
theorem NotBelowZero.add (hx : NotBelowZero x) (hy : NotBelowZero y) :
    NotBelowZero (UnpackedFloat.add spec x y) := by
  rcases hx with _ | s | _ | ⟨m, e, h⟩
  · exact .notANumber
  · rcases hy with _ | s' | _ | ⟨m', e', h'⟩
    · exact .notANumber
    · exact .ite (.zero _) (.zero _)
    · exact .infinity
    · exact .finite m' e' h'
  · rcases hy with _ | s' | _ | ⟨m', e', h'⟩
    · exact .notANumber
    all_goals exact .infinity
  · rcases hy with _ | s' | _ | ⟨m', e', h'⟩
    · exact .notANumber
    · exact .finite m e h
    · exact .infinity
    · refine notBelowZero_normalize ?_ _ _
      exact Int.add_nonneg (Int.natCast_nonneg _) (Int.natCast_nonneg _)

/-! ## Packing -/

/-- The sign that was packed is unpacked. -/
theorem unpackSign_packComponents (s : Sign) (e : BitVec spec.exponentBits)
    (m : BitVec spec.mantissaBitsWithoutImplicit) :
    unpackSign (packComponents spec s e m) = s.toBitVec := by
  ext i hi
  obtain rfl : i = 0 := by omega
  delta unpackSign
  simp [packComponents, BitVec.getLsbD_append, BitVec.getElem_append]

/-- What has a positive sign is not below zero. -/
theorem notBelowZero_of_sign {b : BitVec spec.numBits}
    (hsign : Sign.ofBitVec (unpackSign b) = .positive) :
    NotBelowZero (UnpackedFloat.unpack spec b) := by
  unfold UnpackedFloat.unpack
  dsimp only
  rw [hsign]
  refine .ite (.ite .infinity .notANumber) (.ite ?_ (.finite _ _ _))
  exact .dite (fun _ => .zero _) fun _ => .finite _ _ _

/-- Whatever is packed with a plus is not below zero. -/
theorem notBelowZero_packComponents (e : BitVec spec.exponentBits)
    (m : BitVec spec.mantissaBitsWithoutImplicit) :
    NotBelowZero (UnpackedFloat.unpack spec (packComponents spec .positive e m)) := by
  refine notBelowZero_of_sign ?_
  rw [unpackSign_packComponents]
  rfl

/-- A packed zero is unpacked as a zero of its sign. -/
theorem unpack_packedZero (s : Sign) :
    UnpackedFloat.unpack .binary64 (packedZero .binary64 s) = .zero s := by
  cases s <;> rfl

/-- **To pack keeps the sign.** -/
theorem notBelowZero_unpack_pack (hx : NotBelowZero x) :
    NotBelowZero (UnpackedFloat.unpack .binary64 (UnpackedFloat.pack .binary64 x)) := by
  rcases hx with _ | s | _ | ⟨m, e, h⟩
  · exact notBelowZero_packComponents _ _
  · have hzero : UnpackedFloat.unpack .binary64 (UnpackedFloat.pack .binary64 (.zero s)) =
        .zero s := unpack_packedZero s
    rw [hzero]
    exact .zero s
  · exact notBelowZero_packComponents _ _
  · unfold UnpackedFloat.pack
    dsimp only
    split
    · exact notBelowZero_packComponents _ _
    · split <;> exact notBelowZero_packComponents _ _

/-! ## Bit patterns -/

section

-- The three fields of a pattern, as a number is read off it and as it is unpacked.
variable (bits : UInt64)

theorem fraction_eq_iff (m : BitVec 52) : bits.toNat % Binary64.hiddenBit = m.toNat ↔
    @unpackMantissa .binary64 bits.toBitVec = m := by
  have hfraction : (@unpackMantissa .binary64 bits.toBitVec).toNat =
      bits.toNat % Binary64.hiddenBit := by
    simp [unpackMantissa, Binary64.hiddenBit]
  rw [← hfraction]
  exact BitVec.toNat_inj

theorem exponent_eq_iff (e : BitVec 11) : bits.toNat / Binary64.hiddenBit % 2048 = e.toNat ↔
    @unpackExponent .binary64 bits.toBitVec = e := by
  have hexponent : (@unpackExponent .binary64 bits.toBitVec).toNat =
      bits.toNat / Binary64.hiddenBit % 2048 := by
    simp [unpackExponent, Binary64.hiddenBit, Nat.shiftRight_eq_div_pow]
  rw [← hexponent]
  exact BitVec.toNat_inj

theorem sign_eq_iff (s : BitVec 1) : bits.toNat / (2 * Binary64.hiddenBit * 1024) = s.toNat ↔
    @unpackSign .binary64 bits.toBitVec = s := by
  have hsign : (@unpackSign .binary64 bits.toBitVec).toNat =
      bits.toNat / (2 * Binary64.hiddenBit * 1024) := by
    have hlt := bits.toNat_lt
    delta unpackSign
    simp [Binary64.hiddenBit, Nat.shiftRight_eq_div_pow]
    omega
  rw [← hsign]
  exact BitVec.toNat_inj

end

/-- A pattern with the sign set is still not below zero if it is no number or a zero. -/
theorem isBelowZero_ofBits_eq_false_iff (bits : UInt64) :
    (Binary64.ofBits bits).isBelowZero = false ↔
      bits.toNat / (2 * Binary64.hiddenBit * 1024) ≠ 1 ∨
      bits.toNat / Binary64.hiddenBit % 2048 = 2047 ∧ bits.toNat % Binary64.hiddenBit ≠ 0 ∨
      bits.toNat / Binary64.hiddenBit % 2048 = 0 ∧ bits.toNat % Binary64.hiddenBit = 0 := by
  unfold Binary64.ofBits
  generalize bits.toNat / Binary64.hiddenBit % 2048 = biased
  generalize bits.toNat % Binary64.hiddenBit = fraction
  dsimp only
  by_cases hspecial : biased = 2047
  · by_cases hfraction : fraction = 0
    · simp [hspecial, hfraction, Binary64.isBelowZero]
    · simp [hspecial, hfraction, Binary64.isBelowZero]
  · by_cases hsubnormal : biased = 0
    · simp [hsubnormal, Binary64.isBelowZero, Decidable.imp_iff_not_or]
    · simp [hspecial, hsubnormal, Binary64.isBelowZero, Binary64.hiddenBit]

/-- A pattern is not below zero if its sign is a plus, or if it is no number, or a zero. -/
theorem notBelowZero_unpack_iff (b : BitVec 64) :
    NotBelowZero (UnpackedFloat.unpack .binary64 b) ↔
      @unpackSign .binary64 b ≠ 1#1 ∨
      @unpackExponent .binary64 b = -1#11 ∧ @unpackMantissa .binary64 b ≠ 0#52 ∨
      @unpackExponent .binary64 b = 0#11 ∧ @unpackMantissa .binary64 b = 0#52 := by
  by_cases hsign : @unpackSign .binary64 b = 1#1
  · have hminus : Sign.ofBitVec (@unpackSign .binary64 b) = .negative := by
      rw [hsign]
      rfl
    unfold UnpackedFloat.unpack
    dsimp only
    rw [hminus]
    by_cases hlargest : @unpackExponent .binary64 b = -1#11
    · rw [if_pos hlargest]
      by_cases hzero : @unpackMantissa .binary64 b = 0#52
      · rw [if_pos hzero]
        exact iff_of_false (by intro h; cases h) (by simp [hsign, hlargest, hzero])
      · rw [if_neg hzero]
        exact iff_of_true .notANumber (.inr (.inl ⟨hlargest, hzero⟩))
    · rw [if_neg hlargest]
      by_cases hleast : @unpackExponent .binary64 b = 0#11
      · rw [if_pos hleast]
        by_cases hzero : @unpackMantissa .binary64 b = 0#52
        · rw [dif_pos hzero]
          exact iff_of_true (.zero _) (.inr (.inr ⟨hleast, hzero⟩))
        · rw [dif_neg hzero]
          exact iff_of_false (by intro h; cases h) (by simp [hsign, hleast, hzero])
      · rw [if_neg hleast]
        refine iff_of_false (by intro h; cases h) ?_
        rintro (h | ⟨h, _⟩ | ⟨h, _⟩)
        · exact h hsign
        · exact hlargest h
        · exact hleast h
  · have hplus : Sign.ofBitVec (@unpackSign .binary64 b) = .positive :=
      if_pos ((BitVec.eq_zero_or_eq_one _).resolve_right hsign)
    exact iff_of_true (notBelowZero_of_sign hplus) (.inl hsign)

/-- **The sign of a bit pattern** is the one that it is unpacked with. -/
theorem isBelowZero_ofBits (bits : UInt64) : (Binary64.ofBits bits).isBelowZero = false ↔
    NotBelowZero (UnpackedFloat.unpack .binary64 bits.toBitVec) := by
  have hsign := sign_eq_iff bits 1#1
  have hlargest := exponent_eq_iff bits (-1#11)
  have hleast := exponent_eq_iff bits 0#11
  have hfraction := fraction_eq_iff bits 0#52
  rw [notBelowZero_unpack_iff, isBelowZero_ofBits_eq_false_iff, ← hlargest, ← hleast, Ne, Ne, Ne, Ne,
    ← hfraction, ← hsign]
  exact Iff.rfl

/-! ## Doubles -/

namespace Double

variable {x y : Double}

/-- The test on the bits says what the unpacked number says. -/
theorem isBelowZero_ofFloat {x : Float} :
    (ofFloat x).isBelowZero = false ↔ NotBelowZero x.toModel.unpack :=
  isBelowZero_ofBits _

theorem notBelowZero_toFloat (hx : x.isBelowZero = false) :
    NotBelowZero x.toFloat.toModel.unpack :=
  notBelowZero_unpack_pack ((isBelowZero_ofBits x.bits).1 hx)

/-- A sum of doubles that are not below zero is not below zero. -/
theorem isBelowZero_add (hx : x.isBelowZero = false) (hy : y.isBelowZero = false) :
    (x + y).isBelowZero = false := by
  have hsum : NotBelowZero (.add .binary64 x.toFloat.toModel.unpack y.toFloat.toModel.unpack) :=
    (notBelowZero_toFloat hx).add (notBelowZero_toFloat hy)
  exact isBelowZero_ofFloat.2 (notBelowZero_unpack_pack hsum)

/-- A product of doubles that are not below zero is not below zero. -/
theorem isBelowZero_mul (hx : x.isBelowZero = false) (hy : y.isBelowZero = false) :
    (x * y).isBelowZero = false := by
  have hproduct :
      NotBelowZero (.mul .binary64 x.toFloat.toModel.unpack y.toFloat.toModel.unpack) :=
    (notBelowZero_toFloat hx).mul (notBelowZero_toFloat hy)
  exact isBelowZero_ofFloat.2 (notBelowZero_unpack_pack hproduct)

/-- The whole part of a double that is not below zero is not negative. -/
theorem wholePart_nonneg {n : Int} (hx : x.isBelowZero = false)
    (h : Seconds.wholePart x = .ok n) : 0 ≤ n := by
  simp only [Seconds.wholePart] at h
  unfold isBelowZero at hx
  split at h
  · next negative significand exponent hvalue =>
    rw [hvalue] at hx
    cases h
    cases negative with
    | false => exact Int.natCast_nonneg _
    | true =>
      obtain rfl : significand = 0 := by simpa [Binary64.isBelowZero] using hx
      have hmagnitude : Binary64.wholeMagnitude 0 exponent = 0 := by
        cases exponent <;> simp [Binary64.wholeMagnitude, Binary64.quotient]
      rw [hmagnitude]
      decide
  · cases h
  · cases h

end Double

end Chip8
