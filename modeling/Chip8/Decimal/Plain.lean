import Chip8.Decimal.Double
import Chip8.Decimal.Shortest

/-!
# Decimal/Plain — how settings and timestamps write a number

A setting shows a number by its shortest digits: in full, with at least one decimal place, as long
as its size is at least `10 ^ -4` and below `10 ^ 16`, and otherwise with one digit before the point
and a signed exponent of at least two digits.  A timestamp has a fixed number of decimal places and
is rounded from the exact number, a half going to the even neighbour.  A number of bytes is shown in
the largest unit it reaches, to three digits.
-/

namespace Chip8.Decimal

/-- The digits of a natural number in base ten. -/
def digitsOf (n : Nat) : List Char := Nat.toDigits 10 n

/-- A minus sign where one is due. -/
def sign (negative : Bool) : List Char := if negative then ['-'] else []

/-- Digits with `places` of them after the point. -/
def withPoint (places : Nat) (digits : List Char) : List Char :=
  let filled := digits.leftpad (places + 1) '0'
  let whole := filled.length - places
  filled.take whole ++ '.' :: filled.drop whole

/-- One digit before the point, and an exponent. -/
def scientific (digits : List Char) (exponent : Int) : List Char :=
  let fraction := match digits.drop 1 with
    | [] => []
    | rest => '.' :: rest
  let mark := if exponent < 0 then '-' else '+'
  digits.take 1 ++ fraction ++ 'e' :: mark :: (digitsOf exponent.natAbs).leftpad 2 '0'

/-- The text of a decimal number. -/
def Scaled.text (s : Scaled) : List Char :=
  let digits := digitsOf s.digits
  let point := digits.length + s.exponent
  if s.digits == 0 then ['0', '.', '0']
  else if -4 < point && point ≤ 16 then
    match s.exponent with
    | .ofNat e => digits ++ List.replicate e '0' ++ ['.', '0']
    | .negSucc e => withPoint (e + 1) digits
  else scientific digits (point - 1)

/-- The text of a double in a setting. -/
def text (x : Double) : String :=
  match x.value with
  | .finite negative significand exponent =>
    String.ofList (sign negative ++ (shortest significand exponent).text)
  | .infinite negative => String.ofList (sign negative ++ ['i', 'n', 'f'])
  | .notANumber => "nan"

/-- The text of a double with a fixed number of decimal places. -/
def fixed (places : Nat) (x : Double) : String :=
  match x.value with
  | .finite negative significand exponent =>
    let (num, den) := Binary64.quotient significand exponent
    let digits := digitsOf (Binary64.roundEven (num * Nat.pow 10 places) den)
    String.ofList (sign negative ++ withPoint places digits)
  | .infinite negative => String.ofList (sign negative ++ ['i', 'n', 'f'])
  | .notANumber => "nan"

/-- The units of a number of bytes, each 1024 times the one before. -/
def byteUnits : List String := ["bytes", "KiB", "MiB", "GiB", "TiB", "PiB", "EiB"]

/-- The text of a quotient with three digits, or with all before the point. -/
def threeDigits (num den : Nat) : String :=
  let round (places : Nat) := Binary64.roundEven (num * Nat.pow 10 places) den
  let places := if round 2 < 1000 then 2 else if round 1 < 1000 then 1 else 0
  String.ofList (withPoint places (digitsOf (round places)))

/-- The text of a number of bytes. -/
def byteCount (n : Nat) : String :=
  let k := n.log2 / 10
  let k := if Binary64.roundEven n (Nat.pow 1024 k) = 1024 then k + 1 else k
  let k := min k (byteUnits.length - 1)
  let amount := if k = 0 then toString n else threeDigits n (Nat.pow 1024 k)
  amount ++ " " ++ byteUnits.getD k ""

end Chip8.Decimal
