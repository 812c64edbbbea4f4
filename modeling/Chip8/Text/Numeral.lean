import Chip8.Text.Blank

/-!
# Text/Numeral — integers as a person types them

A numeral may stand between blanks, carry a sign, use the decimal digits of any script and separate
digits by single underscores: `" +1_000 "` reads as one thousand.  Nothing else is a numeral, and
neither is one of more than `digitLimit` digits.
-/

namespace Chip8.Text

/-- The zero of each block of ten decimal digits in Unicode 14. -/
def digitZeros : List Nat := [
  0x30, 0x660, 0x6F0, 0x7C0, 0x966, 0x9E6, 0xA66, 0xAE6, 0xB66, 0xBE6, 0xC66, 0xCE6, 0xD66, 0xDE6,
  0xE50, 0xED0, 0xF20, 0x1040, 0x1090, 0x17E0, 0x1810, 0x1946, 0x19D0, 0x1A80, 0x1A90, 0x1B50,
  0x1BB0, 0x1C40, 0x1C50, 0xA620, 0xA8D0, 0xA900, 0xA9D0, 0xA9F0, 0xAA50, 0xABF0, 0xFF10, 0x104A0,
  0x10D30, 0x11066, 0x110F0, 0x11136, 0x111D0, 0x112F0, 0x11450, 0x114D0, 0x11650, 0x116C0,
  0x11730, 0x118E0, 0x11950, 0x11C50, 0x11D50, 0x11DA0, 0x16A60, 0x16AC0, 0x16B50, 0x1D7CE,
  0x1D7D8, 0x1D7E2, 0x1D7EC, 0x1D7F6, 0x1E140, 0x1E2F0, 0x1E950, 0x1FBF0]

/-- The value of a decimal digit of any script. -/
def digitValue? (c : Char) : Option Nat :=
  (digitZeros.find? fun first => first ≤ c.toNat && c.toNat < first + 10).map (c.toNat - ·)

/-- How many digits a numeral may have. -/
def digitLimit : Nat := 4300

/-- The digit values of a text that starts with a digit, ends with one, and separates digits by at
most one underscore. -/
def digitGroup? : List Char → Option (List Nat)
  | [] => none
  | [c] => (digitValue? c).map ([·])
  | c :: '_' :: rest => do return (← digitValue? c) :: (← digitGroup? rest)
  | c :: rest => do return (← digitValue? c) :: (← digitGroup? rest)

/-- The number that digit values spell in base ten. -/
def ofDigitValues (digits : List Nat) : Nat := digits.foldl (fun n d => 10 * n + d) 0

/-- The number that an unsigned numeral spells. -/
def unsigned? (cs : List Char) : Option Nat := do
  let digits ← digitGroup? cs
  if digits.length ≤ digitLimit then some (ofDigitValues digits) else none

/-- The integer that a numeral spells, `none` for any other text. -/
def integer? (s : String) : Option Int :=
  match trim isBlank s.toList with
  | '-' :: rest => (unsigned? rest).map fun n => -(n : Int)
  | '+' :: rest => (unsigned? rest).map Int.ofNat
  | cs => (unsigned? cs).map Int.ofNat

end Chip8.Text
