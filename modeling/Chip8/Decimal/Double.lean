import Chip8.Decimal.Binary64

/-!
# Decimal/Double — doubles, known by their bit patterns

Many bit patterns stand for no number, and a setting that is one of them is kept and shown as it was
given.  So a `Double` is the pattern itself, and equal doubles are equal patterns: the two zeros are
different doubles.  Arithmetic takes the pattern of the machine's result.
-/

namespace Chip8

/-- A double. -/
structure Double where
  bits : UInt64
  deriving DecidableEq, Repr

namespace Double

/-- The double of a machine number. -/
def ofFloat (x : Float) : Double := ⟨x.toBits⟩

/-- The machine number of a double. -/
def toFloat (x : Double) : Float := .ofBits x.bits

/-- What a double stands for. -/
def value (x : Double) : Binary64 := .ofBits x.bits

instance : Add Double := ⟨fun x y => ofFloat (x.toFloat + y.toFloat)⟩

instance : Sub Double := ⟨fun x y => ofFloat (x.toFloat - y.toFloat)⟩

instance : Mul Double := ⟨fun x y => ofFloat (x.toFloat * y.toFloat)⟩

instance (n : Nat) : OfNat Double n := ⟨ofFloat (Float.ofNat n)⟩

/-- Whether a double is one of the two zeros. -/
def isZero (x : Double) : Bool := x.toFloat == 0

/-- Whether a double is zero or below. -/
def isNonpositive (x : Double) : Bool := x.toFloat ≤ 0

/-- The double nearest to an integer; infinite beyond the finite doubles. -/
def ofInt (n : Int) : Double := ofFloat (Float.ofInt n)

/-- The double nearest to an integer, `none` when it lies beyond the finite doubles. -/
def ofInt? (n : Int) : Option Double :=
  let shift := n.natAbs.log2 - 52
  let significand := Binary64.roundEven n.natAbs (1 <<< shift)
  let magnitude := (Float.ofNat significand).scaleB shift
  if magnitude.isFinite then some (ofFloat (if n < 0 then -magnitude else magnitude)) else none

end Double

end Chip8
