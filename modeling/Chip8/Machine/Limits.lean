/-!
# Machine/Limits — how large the parts of the machine are
-/

namespace Chip8

/-- How many bytes the machine's memory has. -/
def memorySize : Nat := 4096

/-- Where programs are loaded and start. -/
def programStart : Nat := 0x200

/-- How many bytes a program may have. -/
def programLimit : Nat := memorySize - programStart

/-- How many return addresses the call stack holds. -/
def stackDepth : Nat := 16

end Chip8
