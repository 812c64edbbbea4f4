import Chip8.Proofs.Doubles
import Mathlib.Data.Rat.Floor
import Mathlib.Tactic.FieldSimp
import Mathlib.Tactic.Positivity

/-!
# Proofs/Fits — numbers that need no rounding

A significand below `2 ^ 53` and an exponent in range fit a double, and are written as one in one
way: with all 53 places, or with the least exponent (`Fits`).  What is read off a bit pattern fits
(`fits_of_ofBits`).  What fits is packed and unpacked as it is (`Fits.unpack_pack`), and it is what
any other way of writing the same number is rounded to (`Fits.round_eq`): the places that are
shifted out are empty.
-/

namespace Chip8

open Float.Model Float.Model.UnpackedFloat

/-! ## Bit patterns, read and unpacked -/

/-- Whether a sign is a minus. -/
def isMinus : Sign → Bool
  | .negative => true
  | .positive => false

/-- What an unpacked number stands for. -/
def Binary64.ofUnpacked : UnpackedFloat → Binary64
  | .zero s => .finite (isMinus s) 0 minExponent
  | .finite s m e _ => .finite (isMinus s) m e
  | .infinity s => .infinite (isMinus s)
  | .notANumber => .notANumber

theorem ofUnpacked_zero (s : Sign) :
    Binary64.ofUnpacked (.zero s) = .finite (isMinus s) 0 Binary64.minExponent := rfl

theorem ofUnpacked_finite (s : Sign) (m : Nat) (e : Int) (h : 0 < m) :
    Binary64.ofUnpacked (.finite s m e h) = .finite (isMinus s) m e := rfl

/-- The sign is the highest bit. -/
theorem isMinus_ofBitVec (bits : UInt64) :
    isMinus (Sign.ofBitVec (@unpackSign .binary64 bits.toBitVec)) =
      (bits.toNat / (2 * Binary64.hiddenBit * 1024) == 1) := by
  have hbit : ∀ b : BitVec 1, isMinus (Sign.ofBitVec b) = true ↔ b = 1#1 := by decide
  have hsign := sign_eq_iff bits 1#1
  rw [Bool.eq_iff_iff, beq_iff_eq, hbit]
  exact hsign.symm

/-- The mantissa is the pattern modulo the hidden bit. -/
theorem toNat_unpackMantissa (bits : UInt64) :
    (@unpackMantissa .binary64 bits.toBitVec).toNat = bits.toNat % Binary64.hiddenBit :=
  ((fraction_eq_iff bits _).2 rfl).symm

/-- The exponent is the eleven bits above the mantissa. -/
theorem toNat_unpackExponent (bits : UInt64) :
    (@unpackExponent .binary64 bits.toBitVec).toNat = bits.toNat / Binary64.hiddenBit % 2048 :=
  ((exponent_eq_iff bits _).2 rfl).symm

theorem toNat_one_append (m : BitVec 52) : (1#1 ++ m).toNat = Binary64.hiddenBit + m.toNat := by
  rw [BitVec.toNat_append, ← Nat.shiftLeft_add_eq_or_of_lt m.isLt]
  rfl

/-- A bit pattern stands for what it is unpacked to. -/
theorem ofBits_eq_ofUnpacked (bits : UInt64) :
    Binary64.ofBits bits = .ofUnpacked (UnpackedFloat.unpack .binary64 bits.toBitVec) := by
  have hlargest : bits.toNat / Binary64.hiddenBit % 2048 = 2047 ↔
      @unpackExponent .binary64 bits.toBitVec = -1#11 := exponent_eq_iff bits (-1#11)
  have hleast : bits.toNat / Binary64.hiddenBit % 2048 = 0 ↔
      @unpackExponent .binary64 bits.toBitVec = 0#11 := exponent_eq_iff bits 0#11
  have hfraction : bits.toNat % Binary64.hiddenBit = 0 ↔
      @unpackMantissa .binary64 bits.toBitVec = 0#52 := fraction_eq_iff bits 0#52
  unfold Binary64.ofBits
  simp only [beq_iff_eq, hlargest, hleast, hfraction]
  rw [← isMinus_ofBitVec, ← toNat_unpackMantissa, ← toNat_unpackExponent]
  unfold UnpackedFloat.unpack
  dsimp only
  by_cases hspecial : @unpackExponent .binary64 bits.toBitVec = -1#11
  · rw [if_pos hspecial, if_pos hspecial]
    by_cases hzero : @unpackMantissa .binary64 bits.toBitVec = 0#52
    · rw [if_pos hzero, if_pos hzero]
      rfl
    · rw [if_neg hzero, if_neg hzero]
      rfl
  · rw [if_neg hspecial, if_neg hspecial]
    by_cases hsubnormal : @unpackExponent .binary64 bits.toBitVec = 0#11
    · rw [if_pos hsubnormal, if_pos hsubnormal]
      by_cases hzero : @unpackMantissa .binary64 bits.toBitVec = 0#52
      · rw [dif_pos hzero, hzero]
        rfl
      · rw [dif_neg hzero, hsubnormal]
        rfl
    · rw [if_neg hsubnormal, if_neg hsubnormal, ofUnpacked_finite, toNat_one_append]
      congr 1
      have hbias : (Format.binary64.exponentBias : Int) = 1023 := rfl
      have hleast : Binary64.minExponent = -1074 := rfl
      omega

/-! ## What fits -/

/-- That a significand and an exponent are those of a positive double. -/
structure Fits (m : Nat) (e : Int) : Prop where
  pos : 0 < m
  lt : m < 2 * Binary64.hiddenBit
  least : Binary64.minExponent ≤ e
  most : e ≤ 971
  full : Binary64.hiddenBit ≤ m ∨ e = Binary64.minExponent

variable {bits : UInt64} {s : Sign} {m m' : Nat} {e e' : Int}

/-- **What is read off a bit pattern** fits. -/
theorem fits_of_ofBits {negative : Bool} (h : Binary64.ofBits bits = .finite negative m e)
    (hpos : 0 < m) : Fits m e := by
  have hleast : Binary64.minExponent = -1074 := rfl
  have hfraction := Nat.mod_lt bits.toNat (show 0 < Binary64.hiddenBit by decide)
  unfold Binary64.ofBits at h
  dsimp only at h
  simp only [beq_iff_eq] at h
  split_ifs at h with _ _ hsubnormal
  all_goals obtain ⟨_, hm, he⟩ := Binary64.finite.inj h
  · exact ⟨hpos, by omega, by omega, by omega, .inr he.symm⟩
  · exact ⟨hpos, by omega, by omega, by omega, .inl (by omega)⟩

/-- **What is unpacked as finite fits.** -/
theorem fits_of_unpack {hpos : 0 < m}
    (h : UnpackedFloat.unpack .binary64 bits.toBitVec = .finite s m e hpos) : Fits m e := by
  have hbits := ofBits_eq_ofUnpacked bits
  rw [h] at hbits
  exact fits_of_ofBits hbits hpos

/-- All places of a significand are taken if its first one is. -/
theorem log2_eq_iff (hpos : 0 < m) (h : m < 2 * Binary64.hiddenBit) :
    m.log2 + 1 = Format.binary64.mantissaBits ↔ Binary64.hiddenBit ≤ m := by
  have hlt : m.log2 < 53 := (Nat.log2_lt hpos.ne').2 h
  have hle : 52 ≤ m.log2 ↔ Binary64.hiddenBit ≤ m := Nat.le_log2 hpos.ne'
  have hbits : Format.binary64.mantissaBits = 53 := rfl
  omega

/-! ## Packing -/

theorem ofBitVec_toBitVec : ∀ s : Sign, Sign.ofBitVec s.toBitVec = s
  | .negative => rfl
  | .positive => rfl

theorem finite_congr {s' : Sign} (hs : s = s') (hm : m = m') (he : e = e') (h : 0 < m)
    (h' : 0 < m') : UnpackedFloat.finite s m e h = .finite s' m' e' h' := by
  subst hs hm he
  rfl

section

variable (s) {b : BitVec 11} {f : BitVec 52}

theorem unpackSign_eq (b : BitVec 11) (f : BitVec 52) :
    Sign.ofBitVec (unpackSign (packComponents .binary64 s b f)) = s := by
  rw [unpackSign_packComponents, ofBitVec_toBitVec]

/-- A normal number is unpacked with the hidden bit in front of its mantissa. -/
theorem unpack_packComponents (h : b ≠ -1#11) (h' : b ≠ 0#11)
    (hpos : 0 < Binary64.hiddenBit + f.toNat) :
    UnpackedFloat.unpack .binary64 (packComponents .binary64 s b f) =
      .finite s (Binary64.hiddenBit + f.toNat) (b.toNat - 1075) hpos := by
  have hexponent : unpackExponent (packComponents .binary64 s b f) = b :=
    unpackExponent_packComponents ..
  have hmantissa : unpackMantissa (packComponents .binary64 s b f) = f :=
    unpackMantissa_packComponents ..
  unfold UnpackedFloat.unpack
  dsimp only
  rw [if_neg (hexponent.trans_ne h), if_neg (hexponent.trans_ne h')]
  refine finite_congr (unpackSign_eq s b f) ?_ ?_ _ _
  · rw [hmantissa]
    exact toNat_one_append f
  · rw [hexponent]
    rfl

/-- The least exponent has a pattern of its own. -/
theorem unpack_packComponents_zero (h : f ≠ 0#52) (hpos : 0 < f.toNat) :
    UnpackedFloat.unpack .binary64 (packComponents .binary64 s 0#11 f) =
      .finite s f.toNat Binary64.minExponent hpos := by
  have hexponent : unpackExponent (packComponents .binary64 s 0#11 f) = 0#11 :=
    unpackExponent_packComponents ..
  have hmantissa : unpackMantissa (packComponents .binary64 s 0#11 f) = f :=
    unpackMantissa_packComponents ..
  unfold UnpackedFloat.unpack
  dsimp only
  rw [if_neg (hexponent.trans_ne (by decide)), if_pos hexponent, dif_neg (hmantissa.trans_ne h)]
  refine finite_congr (unpackSign_eq s _ f) ?_ ?_ _ _
  · rw [hmantissa]
  · rw [hexponent]
    rfl

end

namespace Fits

/-- **What fits is packed as it is.** -/
theorem unpack_pack (h : Fits m e) (s : Sign) :
    UnpackedFloat.unpack .binary64 (UnpackedFloat.pack .binary64 (.finite s m e h.pos)) =
      .finite s m e h.pos := by
  obtain ⟨hpos, hlt, hleast, hmost, hfull⟩ := h
  have hmin : Binary64.minExponent = -1074 := rfl
  have hbit : Binary64.hiddenBit = 4503599627370496 := rfl
  have hbias : e + (Format.binary64.exponentBias : Int) + (52 : Nat) = e + 1075 :=
    Int.add_assoc e 1023 52
  delta UnpackedFloat.pack
  dsimp only
  rw [hbias, if_neg (by omega)]
  by_cases hnormal : Binary64.hiddenBit ≤ m
  · rw [if_pos ((log2_eq_iff hpos hlt).2 hnormal)]
    have hmantissa : Binary64.hiddenBit + (BitVec.ofNat 52 m).toNat = m := by
      rw [BitVec.toNat_ofNat]
      omega
    have hexponent : ((BitVec.ofNat 11 (e + 1075).toNat).toNat : Int) = e + 1075 := by
      rw [BitVec.toNat_ofNat]
      omega
    rw [unpack_packComponents s _ _ (by omega)]
    · exact finite_congr rfl hmantissa (by omega) _ _
    · intro h
      rw [h] at hexponent
      have hlargest : ((-1#11).toNat : Int) = 2047 := rfl
      omega
    · intro h
      rw [h] at hexponent
      have hzero : ((0#11).toNat : Int) = 0 := rfl
      omega
  · obtain rfl := hfull.resolve_left hnormal
    rw [if_neg (mt (log2_eq_iff hpos hlt).1 hnormal)]
    have hmantissa : (BitVec.ofNat 52 m).toNat = m := by
      rw [BitVec.toNat_ofNat]
      omega
    rw [unpack_packComponents_zero s _ (by omega)]
    · exact finite_congr rfl hmantissa rfl _ _
    · intro h
      rw [h] at hmantissa
      exact absurd hmantissa hpos.ne

end Fits

/-! ## Rounding -/

/-- Places that are empty are shifted out without a trace. -/
theorem shiftLeft_shiftRight (m : Nat) : ∀ k : Nat,
    (ExtendedMantissa.mk (m <<< k) false false) >>> k = ExtendedMantissa.mk m false false
  | 0 => rfl
  | k + 1 => by
    have hone : ExtendedMantissa.shiftRightOne ⟨2 * m, false, false⟩ = ⟨m, false, false⟩ := by
      simp [ExtendedMantissa.shiftRightOne]
    have hstep : (ExtendedMantissa.mk (m <<< (k + 1)) false false) >>> (k + 1) =
        ExtendedMantissa.shiftRightOne (ExtendedMantissa.mk ((2 * m) <<< k) false false >>> k) := by
      rw [Nat.shiftLeft_succ_inside]
      rfl
    rw [hstep, shiftLeft_shiftRight (2 * m) k, hone]

/-- A shift by `k` places makes a number longer by `k` places. -/
theorem log2_shiftLeft (hpos : 0 < m) (k : Nat) : (m <<< k).log2 = m.log2 + k := by
  have hle : 2 ^ m.log2 ≤ m := Nat.log2_self_le hpos.ne'
  have hlt : m < 2 ^ (m.log2 + 1) := Nat.lt_log2_self
  have hne : m <<< k ≠ 0 := by
    rw [Nat.shiftLeft_eq]
    positivity
  rw [Nat.log2_eq_iff hne, Nat.shiftLeft_eq, Nat.pow_add, Nat.add_right_comm, Nat.pow_add]
  exact ⟨Nat.mul_le_mul_right _ hle, Nat.mul_lt_mul_of_pos_right hlt (by positivity)⟩

namespace Fits

/-- What fits is to be rounded to its own exponent. -/
theorem targetExponent_eq (h : Fits m e) (k : Nat) :
    Format.binary64.targetExponent (totalExponent (m <<< k) (e - k)) = e := by
  obtain ⟨hpos, hlt, hleast, _, hfull⟩ := h
  have hmin : Binary64.minExponent = -1074 := rfl
  have hbits : Format.binary64.mantissaBits = 53 := rfl
  have hlog := log2_eq_iff hpos hlt
  have hlog_lt : m.log2 < 53 := (Nat.log2_lt hpos.ne').2 hlt
  have htarget : Format.binary64.targetExponent (totalExponent (m <<< k) (e - k)) =
    max (((m <<< k).log2 : Int) + 1 + (e - k) - 53) (-1074) := rfl
  rw [htarget, log2_shiftLeft hpos]
  omega

/-- A significand that fits is shifted back to itself, with no bit lost. -/
theorem shiftToTargetExponent_eq (h : Fits m e) (k : Nat) :
    shiftToTargetExponent .binary64 (m <<< k) (e - k) .exact = (⟨m, false, false⟩, e) := by
  unfold shiftToTargetExponent shiftToExponent
  dsimp only
  have hk : (e - (e - k)).toNat = k := by omega
  rw [h.targetExponent_eq, hk]
  exact Prod.ext (shiftLeft_shiftRight m k) (Int.sub_add_cancel e k)

/-- **What fits is not rounded**, however far it was shifted before. -/
theorem roundWithAccuracy_eq (h : Fits m e) (s : Sign) (k : Nat) :
    roundWithAccuracy .binary64 s (m <<< k) (e - k) .exact = .finite s m e h.pos := by
  have hagain := h.shiftToTargetExponent_eq 0
  rw [Nat.shiftLeft_zero, Int.natCast_zero, Int.sub_zero] at hagain
  have hrounded : ExtendedMantissa.roundedMantissa ⟨m, false, false⟩ = m := rfl
  unfold roundWithAccuracy
  dsimp only
  rw [h.shiftToTargetExponent_eq k]
  dsimp only
  rw [hrounded, hagain, dif_neg h.pos.ne']

end Fits

/-- The significands of equal numbers differ by the places between their exponents. -/
theorem eq_shiftLeft {k : Nat} (h : (m' : ℚ) * 2 ^ (e - k) = m * 2 ^ e) : m' = m <<< k := by
  rw [zpow_sub₀ two_ne_zero, zpow_natCast, ← mul_div_assoc, div_eq_iff (by positivity),
    mul_right_comm] at h
  have hcast := mul_right_cancel₀ (zpow_ne_zero e two_ne_zero) h
  rw [Nat.shiftLeft_eq]
  exact_mod_cast hcast

/-- A shift that the exponent makes up for leaves the number. -/
theorem shiftLeft_mul_zpow (m k : Nat) (e : Int) :
    ((m <<< k : Nat) : ℚ) * 2 ^ (e - k) = m * 2 ^ e := by
  rw [Nat.shiftLeft_eq, zpow_sub₀ two_ne_zero, zpow_natCast]
  push_cast
  field_simp

namespace Fits

/-- What fits is positive. -/
theorem value_pos (h : Fits m e) : 0 < (m : ℚ) * 2 ^ e :=
  mul_pos (Nat.cast_pos.2 h.pos) (zpow_pos two_pos e)

/-- **What fits is not rounded**, however it is written. -/
theorem round_eq (h : Fits m e) (s : Sign) (hvalue : (m' : ℚ) * 2 ^ e' = m * 2 ^ e) :
    UnpackedFloat.round .binary64 s m' e' = .finite s m e h.pos := by
  unfold UnpackedFloat.round decreaseExponent
  dsimp only
  obtain hle | hle := Int.le_total e' e
  · -- the places in excess are empty, and shifted out
    obtain ⟨k, rfl⟩ : ∃ k : Nat, e' = e - k := ⟨(e - e').toNat, by omega⟩
    obtain rfl := eq_shiftLeft hvalue
    have hnone : (e - k - e).toNat = 0 := by omega
    rw [h.targetExponent_eq, hnone, Nat.shiftLeft_zero, Int.natCast_zero, Int.sub_zero]
    exact h.roundWithAccuracy_eq s k
  · -- the places that are missing are filled up first
    obtain ⟨k, rfl⟩ : ∃ k : Nat, e' = e + k := ⟨(e' - e).toNat, by omega⟩
    obtain rfl : m = m' <<< k := eq_shiftLeft (by rw [Int.add_sub_cancel]; exact hvalue.symm)
    have hpos : 0 < m' := Nat.pos_of_ne_zero fun hzero => by
      have hne := h.pos
      simp [hzero] at hne
    have htotal : totalExponent m' (e + k) = totalExponent (m' <<< k) e := by
      rw [totalExponent, totalExponent, log2_shiftLeft hpos]
      omega
    have hk : (e + k - e).toNat = k := by omega
    have htarget := h.targetExponent_eq 0
    have hround := h.roundWithAccuracy_eq s 0
    rw [Nat.shiftLeft_zero, Int.natCast_zero, Int.sub_zero] at htarget hround
    rw [htotal, htarget, hk, Int.add_sub_cancel]
    exact hround

/-- A number that fits is normalized to what fits, from any significand and exponent for it. -/
theorem normalize_eq {k : Int} (h : Fits m e) (hk : (k : ℚ) * 2 ^ e' = m * 2 ^ e) :
    UnpackedFloat.normalize .binary64 k e' .positive = .finite .positive m e h.pos := by
  have hkpos : 0 < k := by
    have hpositive := h.value_pos
    rw [← hk] at hpositive
    have hpow : 0 < (2 : ℚ) ^ e' := zpow_pos two_pos e'
    exact_mod_cast pos_of_mul_pos_left hpositive hpow.le
  obtain ⟨n, rfl⟩ := Int.eq_ofNat_of_zero_le hkpos.le
  have hround : UnpackedFloat.normalize .binary64 n e' .positive =
      UnpackedFloat.round .binary64 .positive n e' := by
    unfold UnpackedFloat.normalize
    rw [Int.compare_eq_gt.2 hkpos]
    rfl
  rw [hround, h.round_eq .positive (by exact_mod_cast hk)]

end Fits

/-! ## Numbers -/

/-- That a number, not below zero, is a double. -/
def IsDouble (q : ℚ) : Prop := q = 0 ∨ ∃ m e, Fits m e ∧ (m : ℚ) * 2 ^ e = q

/-- **A number of at most 53 places** is a double. -/
theorem isDouble_of_lt (hlt : m < 2 * Binary64.hiddenBit) (hleast : Binary64.minExponent ≤ e)
    (hmost : e ≤ 971) : IsDouble (m * 2 ^ e) := by
  obtain rfl | hpos := Nat.eq_zero_or_pos m
  · exact .inl (by simp)
  · have hmin : Binary64.minExponent = -1074 := rfl
    have hbits : Format.binary64.mantissaBits = 53 := rfl
    have hlog : m.log2 < 53 := (Nat.log2_lt hpos.ne').2 hlt
    -- as many places as are free, as long as the exponent allows it
    obtain ⟨k, hk⟩ : ∃ k : Nat, (k : Int) = min (52 - (m.log2 : Int)) (e + 1074) :=
      ⟨(min (52 - (m.log2 : Int)) (e + 1074)).toNat, by omega⟩
    have hpos' : 0 < m <<< k := by
      rw [Nat.shiftLeft_eq]
      positivity
    have hlog' : (m <<< k).log2 < 53 := by
      rw [log2_shiftLeft hpos]
      omega
    have hlt' : m <<< k < 2 * Binary64.hiddenBit := (Nat.log2_lt hpos'.ne').1 hlog'
    have hfull := log2_eq_iff hpos' hlt'
    rw [log2_shiftLeft hpos] at hfull
    exact .inr ⟨m <<< k, e - k, ⟨hpos', hlt', by omega, by omega, by omega⟩,
      shiftLeft_mul_zpow m k e⟩

end Chip8
