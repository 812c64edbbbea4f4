import Chip8.Decimal.Binary64

/-!
# Decimal/Shortest — the fewest digits that read back as the same double

A double is nearest to every real number of an interval around it.  `shortest` looks for a point of
a decimal grid in that interval, on the coarsest grid that has one: with one digit, with two, and so
on up to seventeen.  On a grid only the two neighbours of the number need looking at — if any grid
point lies in the interval, one of them does.
-/

namespace Chip8.Decimal

/-- The number `digits · 10 ^ exponent`. -/
structure Scaled where
  digits : Nat
  exponent : Int
  deriving DecidableEq, Repr

/-- A positive quotient with the interval of numbers that read back as it: `low`, `mid` and `high`
are over the common denominator `den`, and `closed` tells whether the ends belong to it. -/
structure Interval where
  low : Nat
  mid : Nat
  high : Nat
  den : Nat
  closed : Bool

/-- The numbers nearest to the double `significand · 2 ^ exponent`.  The gap below a power of two is
half the gap above it, except at the bottom of the range. -/
def readingBack (significand : Nat) (exponent : Int) : Interval :=
  let below := if significand == Binary64.hiddenBit && exponent != Binary64.minExponent then 1 else 2
  let (unit, den) := Binary64.quotient 1 (exponent - 2)
  { low := (4 * significand - below) * unit
    mid := 4 * significand * unit
    high := (4 * significand + 2) * unit
    den
    closed := significand % 2 == 0 }

/-- Whether a quotient lies in the interval. -/
def Interval.holds (i : Interval) (num : Nat) : Bool :=
  if i.closed then i.low ≤ num && num ≤ i.high else i.low < num && num < i.high

/-- The interval on a scale where `10 ^ exponent` counts as one. -/
def Interval.rescale (i : Interval) : Int → Interval
  | .ofNat e => { i with den := i.den * Nat.pow 10 e }
  | .negSucc e =>
    let factor := Nat.pow 10 (e + 1)
    { i with low := i.low * factor, mid := i.mid * factor, high := i.high * factor }

/-- The point of the grid of step `10 ^ exponent` that reads back and lies nearest, the lower of two
at one distance if it is even. -/
def gridPoint? (i : Interval) (exponent : Int) : Option Scaled :=
  let j := i.rescale exponent
  let below := j.mid / j.den
  let toBelow := 2 * (j.mid % j.den)
  let nearBelow := toBelow < j.den || (toBelow == j.den && below % 2 == 0)
  let belowHolds := 0 < below && j.holds (below * j.den)
  let aboveHolds := j.holds ((below + 1) * j.den)
  if belowHolds && (nearBelow || !aboveHolds) then some ⟨below, exponent⟩
  else if aboveHolds then some ⟨below + 1, exponent⟩
  else none

/-- How many digits stand before the point of a positive quotient; negative or zero if zeros follow
the point. -/
def pointPosition (num den : Nat) : Int :=
  if den ≤ num then (Nat.toDigits 10 (num / den)).length
  else
    match (List.range 400).find? fun zeros => den ≤ num * Nat.pow 10 (zeros + 1) with
    | some zeros => -(zeros : Int)
    | none => 0

/-- The same number without zeros at the end of its digits. -/
def Scaled.dropZeros : Nat → Scaled → Scaled
  | 0, s => s
  | fuel + 1, s =>
    if s.digits != 0 && s.digits % 10 == 0 then dropZeros fuel ⟨s.digits / 10, s.exponent + 1⟩ else s

/-- The shortest decimal that reads back as `significand · 2 ^ exponent`. -/
def shortest (significand : Nat) (exponent : Int) : Scaled :=
  if significand == 0 then ⟨0, 0⟩
  else
    let i := readingBack significand exponent
    let point := pointPosition i.mid i.den
    let found := (List.range 17).findSome? fun (k : Nat) => gridPoint? i (point - (k + 1))
    (found.getD ⟨0, 0⟩).dropZeros 20

end Chip8.Decimal
