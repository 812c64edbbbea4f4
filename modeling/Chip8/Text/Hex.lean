/-!
# Text/Hex — numbers in base sixteen, filled out with zeros

Addresses, words and bytes are all written the same way: capital digits, at least a given number of
characters, zeros on the left.  `hexNat` does that for a natural number; `hexInt` lets a sign stand
first and counts it among the characters, so `hexInt 3 (-1)` is `-01`.
-/

namespace Chip8.Text

/-- The capital hexadecimal digits of a number, most significant first; zero has one digit. -/
def hexDigits (n : Nat) : List Char := (Nat.toDigits 16 n).map Char.toUpper

/-- A number in base sixteen, at least `width` digits wide. -/
def hexNat (width n : Nat) : String := String.ofList ((hexDigits n).leftpad width '0')

/-- An integer in base sixteen, at least `width` characters wide, sign included. -/
def hexInt (width : Nat) : Int → String
  | .ofNat n => hexNat width n
  | .negSucc n => "-" ++ hexNat (width - 1) (n + 1)

@[simp] theorem toList_hexNat (width n : Nat) :
    (hexNat width n).toList = (hexDigits n).leftpad width '0' := by
  simp [hexNat]

end Chip8.Text
