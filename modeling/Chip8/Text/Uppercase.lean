import Chip8.Text.CaseTable

/-!
# Text/Uppercase — texts in capitals

`upper` maps every character by itself; a few characters become two or three (`ß` becomes `SS`).
On ASCII the map is core's `Char.toUpper`, beyond it the tables of `Text/CaseTable` decide.
-/

namespace Chip8.Text

/-- Whether a code point belongs to a run. -/
def CaseRun.covers (r : CaseRun) (code : Nat) : Bool :=
  r.first ≤ code && code ≤ r.last && (code - r.first) % r.stride == 0

/-- The capital form of one character outside ASCII. -/
def upperBeyondAscii (c : Char) : List Char :=
  match expandingCapitals.lookup c.toNat with
  | some codes => codes.map Char.ofNat
  | none =>
    match caseRuns.find? (·.covers c.toNat) with
    | some run => [Char.ofNat (c.toNat + run.shift).toNat]
    | none => [c]

/-- The capital form of one character. -/
def upperChar (c : Char) : List Char :=
  if c.toNat < 128 then [c.toUpper] else upperBeyondAscii c

/-- A text in capitals. -/
def upper (s : String) : String := String.ofList (s.toList.flatMap upperChar)

theorem upperChar_ascii {c : Char} (h : c.toNat < 128) : upperChar c = [c.toUpper] := if_pos h

@[simp] theorem toList_upper (s : String) : (upper s).toList = s.toList.flatMap upperChar := by
  simp [upper]

end Chip8.Text
