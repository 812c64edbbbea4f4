/-!
# Text/Align — texts at the right end of a field
-/

namespace Chip8.Text

/-- A text moved to the right end of a field of `width` characters; a longer text stays as it is. -/
def rightAlign (width : Nat) (s : String) : String :=
  String.ofList (s.toList.leftpad width ' ')

@[simp] theorem toList_rightAlign (width : Nat) (s : String) :
    (rightAlign width s).toList = s.toList.leftpad width ' ' := by
  simp [rightAlign]

end Chip8.Text
