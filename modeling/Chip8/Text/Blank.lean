/-!
# Text/Blank — blank characters, and texts without them at their ends

Two classes of characters count as blank.  A numeral may stand between the blanks of `isBlank`; the
ends of a text, where it is cut to its last line, are cleared of those and of the four separators of
files, groups, records and units.
-/

namespace Chip8.Text

/-- Whether a character may surround a numeral. -/
def isBlank (c : Char) : Bool :=
  let code := c.toNat
  (9 ≤ code && code ≤ 13) || code == 0x20 || code == 0x85 || code == 0xA0 || code == 0x1680 ||
    (0x2000 ≤ code && code ≤ 0x200A) || code == 0x2028 || code == 0x2029 || code == 0x202F ||
    code == 0x205F || code == 0x3000

/-- Whether a character is blank or a separator. -/
def isBlankOrSeparator (c : Char) : Bool := isBlank c || (0x1C ≤ c.toNat && c.toNat ≤ 0x1F)

/-- A text without the characters of a class at its end. -/
def trimEnd (p : Char → Bool) (cs : List Char) : List Char := (cs.reverse.dropWhile p).reverse

/-- A text without the characters of a class at its two ends. -/
def trim (p : Char → Bool) (cs : List Char) : List Char := trimEnd p (cs.dropWhile p)

/-- The last line of a text, blanks and separators around the whole text left out. -/
def lastLine (s : String) : String :=
  let kept := trim isBlankOrSeparator s.toList
  String.ofList (kept.reverse.takeWhile (· ≠ '\n')).reverse

end Chip8.Text
