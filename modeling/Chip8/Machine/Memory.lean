import Chip8.Fault

/-!
# Machine/Memory — 4096 byte cells, read and written by ranges

Addresses and lengths are integers, so that a range can be asked for that does not exist; `inBounds`
is the one check, and `read`, `write` and `word` make it before they touch a cell.  Below the font
and the program lie zeros.
-/

namespace Chip8

/-- The memory cells. -/
abbrev Memory := Vector UInt8 memorySize

namespace Memory

/-- The sprites of the sixteen hexadecimal digits, five bytes each. -/
def font : List UInt8 := [
  0xF0, 0x90, 0x90, 0x90, 0xF0,
  0x20, 0x60, 0x20, 0x20, 0x70,
  0xF0, 0x10, 0xF0, 0x80, 0xF0,
  0xF0, 0x10, 0xF0, 0x10, 0xF0,
  0x90, 0x90, 0xF0, 0x10, 0x10,
  0xF0, 0x80, 0xF0, 0x10, 0xF0,
  0xF0, 0x80, 0xF0, 0x90, 0xF0,
  0xF0, 0x10, 0x20, 0x40, 0x40,
  0xF0, 0x90, 0xF0, 0x90, 0xF0,
  0xF0, 0x90, 0xF0, 0x10, 0xF0,
  0xF0, 0x90, 0xF0, 0x90, 0x90,
  0xE0, 0x90, 0xE0, 0x90, 0xE0,
  0xF0, 0x80, 0x80, 0x80, 0xF0,
  0xE0, 0x90, 0x90, 0x90, 0xE0,
  0xF0, 0x80, 0xF0, 0x80, 0xF0,
  0xF0, 0x80, 0xF0, 0x80, 0x80]

/-- The memory with bytes laid over the cells from an address on; what would lie beyond the last
cell is dropped. -/
def overlay (m : Memory) (address : Nat) : List UInt8 → Memory
  | [] => m
  | b :: bs => overlay (m.setIfInBounds address b) (address + 1) bs

/-- The memory before a program is loaded: the font at its start. -/
def initial : Memory := overlay (.replicate memorySize 0) 0 font

/-- Whether all cells of a range exist. -/
def inBounds (address length : Int) : Bool := 0 ≤ address && address + length ≤ memorySize

/-- Fails unless all cells of a range exist. -/
def checkBounds (address length : Int) : Except Fault Unit :=
  if inBounds address length then .ok () else .error (.outOfBounds address length)

/-- Where a range of cells ends.  An end before the first cell counts from behind the last one. -/
def rangeEnd (address length : Int) : Nat :=
  let stop := address + length
  if stop < 0 then (stop + memorySize).toNat else stop.toNat

/-- The bytes of a range. -/
def read (m : Memory) (address length : Int) : Except Fault (List UInt8) := do
  checkBounds address length
  return (m.extract address.toNat (rangeEnd address length)).toList

/-- The memory with bytes written from an address on. -/
def write (m : Memory) (address : Int) (bytes : List UInt8) : Except Fault Memory := do
  checkBounds address bytes.length
  return m.overlay address.toNat bytes

/-- The byte of a cell, zero where there is none. -/
def byteAt (m : Memory) (address : Nat) : UInt8 := m[address]?.getD 0

/-- The word whose high byte lies at an address. -/
def word (m : Memory) (address : Int) : Except Fault Word := do
  checkBounds address 2
  return .ofBytes (m.byteAt address.toNat) (m.byteAt (address.toNat + 1))

/-- The memory with a program at its place. -/
def load (m : Memory) (program : List UInt8) : Except Fault Memory :=
  if program.length > programLimit then .error (.programTooLarge program.length)
  else .ok (m.overlay programStart program)

/-! ## Cells under an overlay -/

/-- An overlay has its bytes from the address on, and the memory elsewhere. -/
theorem getElem_overlay (m : Memory) (address : Nat) (bytes : List UInt8) (i : Nat)
    (hi : i < memorySize) :
    (m.overlay address bytes)[i] =
      if h : address ≤ i ∧ i < address + bytes.length then bytes[i - address] else m[i] := by
  induction bytes generalizing m address with
  | nil =>
    rw [dif_neg (by simp only [List.length_nil]; omega)]
    rfl
  | cons b bs ih =>
    rw [overlay, ih]
    by_cases h : address + 1 ≤ i ∧ i < address + 1 + bs.length
    · have h' : address ≤ i ∧ i < address + (b :: bs).length := by
        simp only [List.length_cons]; omega
      rw [dif_pos h, dif_pos h']
      have : i - address = (i - (address + 1)) + 1 := by omega
      simp [this]
    · rw [dif_neg h, Vector.getElem_setIfInBounds]
      by_cases e : address = i
      · subst e
        simp
      · rw [if_neg e, dif_neg (by simp only [List.length_cons]; omega)]

/-- A cell outside the overlaid range keeps its byte. -/
theorem getElem_overlay_of_outside (m : Memory) (address : Nat) (bytes : List UInt8) (i : Nat)
    (hi : i < memorySize) (h : i < address ∨ address + bytes.length ≤ i) :
    (m.overlay address bytes)[i] = m[i] := by
  rw [getElem_overlay, dif_neg (by omega)]

end Memory

end Chip8
