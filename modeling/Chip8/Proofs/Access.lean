import Chip8.Machine.Basic
import Chip8.Proofs.CallStack
import Chip8.Proofs.Result

/-!
# Proofs/Access — what the machine answers to an instruction

An instruction reads and writes memory at the index and pushes to and pops from the call stack.
For each access two lemmas say all there is: when it succeeds, and with what; when it is refused,
and with which fault.  Addresses are natural numbers here, as the index is one.
-/

namespace Chip8

namespace Memory

variable {m m' : Memory} {a n : Nat} {bytes : List UInt8} {fault : Fault}

/-- The check passes when the range ends inside the memory. -/
theorem checkBounds_eq_ok_iff {u : Unit} : checkBounds a n = .ok u ↔ a + n ≤ memorySize := by
  unfold checkBounds inBounds
  split <;> simp_all <;> omega

/-- The check fails with the range it was given, and only past the end of the memory. -/
theorem checkBounds_eq_error_iff :
    checkBounds a n = .error fault ↔ memorySize < a + n ∧ .outOfBounds a n = fault := by
  unfold checkBounds inBounds
  split <;> simp_all <;> omega

theorem rangeEnd_natCast (a n : Nat) : rangeEnd a n = a + n := by
  rw [rangeEnd, if_neg (by omega)]
  omega

/-- A read gives the bytes of its range, when the range ends inside the memory. -/
theorem read_eq_ok_iff :
    m.read a n = .ok bytes ↔ a + n ≤ memorySize ∧ (m.toList.drop a).take n = bytes := by
  simp [read, Except.bind_eq_ok_iff, checkBounds_eq_ok_iff, rangeEnd_natCast,
    Vector.toList_extract, pure, Except.pure]

theorem read_eq_error_iff :
    m.read a n = .error fault ↔ memorySize < a + n ∧ .outOfBounds a n = fault := by
  simp [read, Except.bind_eq_error_iff, checkBounds_eq_error_iff, pure, Except.pure]

/-- A write lays its bytes over the memory, when they end inside it. -/
theorem write_eq_ok_iff :
    m.write a bytes = .ok m' ↔ a + bytes.length ≤ memorySize ∧ m.overlay a bytes = m' := by
  simp [write, Except.bind_eq_ok_iff, checkBounds_eq_ok_iff, pure, Except.pure]

theorem write_eq_error_iff :
    m.write a bytes = .error fault ↔
      memorySize < a + bytes.length ∧ .outOfBounds a bytes.length = fault := by
  simp [write, Except.bind_eq_error_iff, checkBounds_eq_error_iff, pure, Except.pure]

/-- A word is two bytes, the high one first. -/
theorem word_eq_ok_iff {w : Word} :
    m.word a = .ok w ↔ a + 2 ≤ memorySize ∧ Word.ofBytes (m.byteAt a) (m.byteAt (a + 1)) = w := by
  have h2 : checkBounds a 2 = checkBounds a (2 : Nat) := rfl
  simp [word, h2, Except.bind_eq_ok_iff, checkBounds_eq_ok_iff, pure, Except.pure]

theorem word_eq_error_iff :
    m.word a = .error fault ↔ memorySize < a + 2 ∧ .outOfBounds a 2 = fault := by
  have h2 : checkBounds a 2 = checkBounds a (2 : Nat) := rfl
  simp [word, h2, Except.bind_eq_error_iff, checkBounds_eq_error_iff, pure, Except.pure]

/-- A cell that a write does not reach keeps its byte. -/
theorem getElem?_overlay_of_outside {i : Nat} (h : i < a ∨ a + bytes.length ≤ i) :
    (m.overlay a bytes)[i]? = m[i]? := by
  by_cases hi : i < memorySize
  · rw [Vector.getElem?_eq_getElem hi, Vector.getElem?_eq_getElem hi,
      getElem_overlay_of_outside m a bytes i hi h]
  · rw [Vector.getElem?_eq_none (by omega), Vector.getElem?_eq_none (by omega)]

/-- A byte that was laid over the memory is read at its place. -/
theorem byteAt_overlay {k : Nat} (hk : k < bytes.length) (h : a + bytes.length ≤ memorySize) :
    (m.overlay a bytes).byteAt (a + k) = bytes[k] := by
  rw [byteAt, Vector.getElem?_eq_getElem (by omega), getElem_overlay, dif_pos (by omega)]
  simp

/-- A word of laid over bytes is read as it was laid. -/
theorem word_overlay {k : Nat} (hk : k + 1 < bytes.length) (h : a + bytes.length ≤ memorySize) :
    (m.overlay a bytes).word (a + k : Nat) = .ok (.ofBytes bytes[k] bytes[k + 1]) := by
  refine word_eq_ok_iff.2 ⟨by omega, ?_⟩
  rw [byteAt_overlay (by omega) h, Nat.add_assoc, byteAt_overlay hk h]

/-- Bytes that were written are read back. -/
theorem read_overlay (h : a + bytes.length ≤ memorySize) :
    (m.overlay a bytes).read a bytes.length = .ok bytes := by
  refine read_eq_ok_iff.2 ⟨h, ?_⟩
  refine List.ext_getElem ?_ fun i h₁ h₂ => ?_
  · rw [List.length_take, List.length_drop, Vector.length_toList]
    omega
  · rw [List.getElem_take, List.getElem_drop, Vector.getElem_toList, getElem_overlay,
      dif_pos (by omega)]
    simp

/-- Bytes that were read are written back to no effect. -/
theorem overlay_eq_self_of_read (h : m.read a n = .ok bytes) : m.overlay a bytes = m := by
  obtain ⟨hfits, rfl⟩ := read_eq_ok_iff.1 h
  ext i hi
  rw [getElem_overlay]
  split
  · next hin => simp [Nat.add_sub_cancel' hin.1]
  · rfl

end Memory

namespace Machine

variable {m m' : Machine} {a n : Nat} {bytes : List UInt8} {fault : Fault} {frame : Word}

/-- The machine reads its memory. -/
theorem read_eq_ok_iff : m.read a n = .ok bytes ↔
    a + n ≤ memorySize ∧ (m.memory.toList.drop a).take n = bytes := Memory.read_eq_ok_iff

theorem read_eq_error_iff :
    m.read a n = .error fault ↔ memorySize < a + n ∧ .outOfBounds a n = fault :=
  Memory.read_eq_error_iff

/-- The machine writes its memory, and nothing besides. -/
theorem write_eq_ok_iff : m.write a bytes = .ok m' ↔
    a + bytes.length ≤ memorySize ∧ { m with memory := m.memory.overlay a bytes } = m' := by
  simp only [write, Except.map_eq_ok_iff, Memory.write_eq_ok_iff, and_assoc, exists_and_left,
    exists_eq_left']

theorem write_eq_error_iff : m.write a bytes = .error fault ↔
    memorySize < a + bytes.length ∧ .outOfBounds a bytes.length = fault := by
  rw [write, Except.map_eq_error_iff, Memory.write_eq_error_iff]

/-- The machine pushes on its stack, and changes nothing besides. -/
theorem push_eq_ok_iff : m.push a = .ok m' ↔
    ∃ stack, m.stack.push a = .ok stack ∧ { m with stack } = m' := Except.map_eq_ok_iff

/-- A push is refused on a full stack, with the address it was given. -/
theorem push_eq_error_iff :
    m.push a = .error fault ↔ stackDepth ≤ m.stack.depth ∧ .stackOverflow a = fault := by
  rw [push, Except.map_eq_error_iff, CallStack.push_eq_error_iff]

/-- The machine pops its stack, and changes nothing besides. -/
theorem pop_eq_ok_iff : m.pop = .ok (m', frame) ↔
    ∃ stack, m.stack.pop = .ok (stack, frame) ∧ { m with stack } = m' := by
  simp [pop, Except.map_eq_ok_iff]

/-- A pop is refused on an empty stack. -/
theorem pop_eq_error_iff : m.pop = .error fault ↔ m.stack.depth = 0 ∧ .stackUnderflow = fault := by
  rw [pop, Except.map_eq_error_iff, CallStack.pop_eq_error_iff]

end Machine

end Chip8
