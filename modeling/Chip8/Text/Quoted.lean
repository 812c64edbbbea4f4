import Chip8.Text.Printable

/-!
# Text/Quoted — a text between quotes, as error messages show it

The apostrophe is the quote unless the text holds an apostrophe and no double quote.  The backslash
and the chosen quote are escaped, line feed, carriage return and tab have letters, and any other
character that is not printable is written by its code: two, four or eight hexadecimal digits.
-/

namespace Chip8.Text

/-- The quote that a text is put between. -/
def quoteFor (cs : List Char) : Char :=
  if cs.contains '\x27' && !cs.contains '\x22' then '\x22' else '\x27'

/-- A code in at least `width` lower-case hexadecimal digits. -/
def codeDigits (width code : Nat) : List Char := (Nat.toDigits 16 code).leftpad width '0'

/-- A character inside quotes. -/
def quoteChar (quote c : Char) : List Char :=
  if c == quote || c == '\\' then ['\\', c]
  else if c == '\n' then ['\\', 'n']
  else if c == '\r' then ['\\', 'r']
  else if c == '\t' then ['\\', 't']
  else if isPrintable c then [c]
  else if c.toNat < 0x100 then '\\' :: 'x' :: codeDigits 2 c.toNat
  else if c.toNat < 0x10000 then '\\' :: 'u' :: codeDigits 4 c.toNat
  else '\\' :: 'U' :: codeDigits 8 c.toNat

/-- A text between quotes. -/
def quoted (s : String) : String :=
  let quote := quoteFor s.toList
  String.ofList (quote :: (s.toList.flatMap (quoteChar quote) ++ [quote]))

/-- A list of quoted texts between brackets. -/
def quotedList (names : List String) : String :=
  "[" ++ ", ".intercalate (names.map quoted) ++ "]"

end Chip8.Text
