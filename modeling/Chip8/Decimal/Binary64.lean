/-!
# Decimal/Binary64 — the exact number that a double stands for

A finite double is a sign, a significand and a power of two; `Binary64.ofBits` reads the three off
the bit pattern.  Everything that has to be exact — the whole part of a number, its decimal text —
is computed from them in integers.
-/

namespace Chip8

/-- What a double stands for. -/
inductive Binary64
  /-- The number `± significand · 2 ^ exponent`. -/
  | finite (negative : Bool) (significand : Nat) (exponent : Int)
  | infinite (negative : Bool)
  | notANumber
  deriving DecidableEq, Repr

namespace Binary64

/-- The significand of the smallest normal number, `2 ^ 52`. -/
def hiddenBit : Nat := 4503599627370496

/-- The exponent of subnormal numbers, the least there is. -/
def minExponent : Int := -1074

/-- What a bit pattern stands for. -/
def ofBits (bits : UInt64) : Binary64 :=
  let negative := bits.toNat / (2 * hiddenBit * 1024) == 1
  let biased := bits.toNat / hiddenBit % 2048
  let fraction := bits.toNat % hiddenBit
  if biased == 2047 then
    if fraction == 0 then .infinite negative else .notANumber
  else if biased == 0 then .finite negative fraction minExponent
  else .finite negative (hiddenBit + fraction) (minExponent + (biased - 1))

/-- The magnitude as a quotient of natural numbers. -/
def quotient (significand : Nat) (exponent : Int) : Nat × Nat :=
  match exponent with
  | .ofNat e => (significand <<< e, 1)
  | .negSucc e => (significand, 1 <<< (e + 1))

/-- The whole part of a magnitude. -/
def wholeMagnitude (significand : Nat) (exponent : Int) : Nat :=
  let (num, den) := quotient significand exponent
  num / den

/-- A quotient rounded to the nearest integer, a half to the even one. -/
def roundEven (num den : Nat) : Nat :=
  let low := num / den
  let rest := 2 * (num % den)
  if rest < den || (rest == den && low % 2 == 0) then low else low + 1

end Binary64

end Chip8
