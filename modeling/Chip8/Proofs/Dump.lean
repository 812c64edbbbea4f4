import Chip8.Debugger.Dump
import Chip8.Proofs.Access
import Chip8.Proofs.Digits
import Chip8.Proofs.Marks

/-!
# Proofs/Dump — the dumps tell the engine

A line of the register dump is a text with a number in it.  Digits are neither blanks nor commas,
so the number ends where the first of those stands: that takes a line apart (`both_inj`), and the
list of frames too, however many there are (`frames_inj`).  The memory dump has a line for every
cell of its range, so it is cut where the range is cut, and each line tells its cell.
-/

namespace Chip8

namespace Text

variable {width n : Nat} {c : Char}

theorem mem_hexDigits (h : c ∈ hexDigits n) : ∃ d < 16, d.digitChar.toUpper = c := by
  induction n using Nat.strongRecOn with
  | ind n ih =>
    by_cases hn : n < 16
    · rw [hexDigits_of_lt hn, List.mem_singleton] at h
      exact ⟨n, hn, h.symm⟩
    · rw [hexDigits_of_le (by omega), List.mem_append, List.mem_singleton] at h
      obtain h | rfl := h
      · exact ih (n / 16) (by omega) h
      · exact ⟨n % 16, by omega, rfl⟩

/-- A character that is no digit stands in no number. -/
theorem notMem_hexNat (h : ∀ d < 16, d.digitChar.toUpper ≠ c) : c ∉ (hexNat width n).toList := by
  rw [toList_hexNat, List.leftpad, List.mem_append]
  rintro (hzero | hdigit)
  · exact h 0 (by decide) (List.eq_of_mem_replicate hzero).symm
  · obtain ⟨d, hd, hc⟩ := mem_hexDigits hdigit
    exact h d hd hc

end Text

namespace Dump

open Text

variable {width m n : Nat} {s t : CallStack} {e e' : Engine}

/-! ## Lines of the register dump -/

/-- A number in both bases is told by its digits in base sixteen. -/
theorem both_inj : both width m = both width n ↔ m = n := by
  refine ⟨fun h => ?_, congrArg _⟩
  have htext (k : Nat) : (both width k).toList =
      '0' :: 'x' :: ((hexNat width k).toList ++ ' ' :: '(' :: ((toString k).toList ++ [')'])) := by
    simp [both, toString]
  have hchars := congrArg String.toList h
  rw [htext, htext] at hchars
  simp only [List.cons_eq_cons, true_and] at hchars
  -- the digits in base sixteen end at the blank, and those in base ten add nothing
  have hblank {k : Nat} : ' ' ∉ (hexNat width k).toList := notMem_hexNat (by decide)
  obtain ⟨hdigits, _⟩ := (append_cons_inj hblank hblank).1 hchars
  exact hexNat_inj.1 (String.toList_inj.1 hdigits)

theorem register_inj {v v' : Registers} {x : Register} :
    register v x = register v' x ↔ v[x] = v'[x] := by
  have hvalue : both 2 v[x].toNat = both 2 v'[x].toNat ↔ v[x] = v'[x] :=
    both_inj.trans UInt8.toNat_inj
  rw [← hvalue]
  exact String.append_right_inj _

/-- **The lines of all registers** tell all registers. -/
theorem registers_eq_iff {v v' : Registers} :
    (List.finRange 16).map (register v) = (List.finRange 16).map (register v') ↔ v = v' := by
  rw [List.map_inj_left]
  refine ⟨fun h => Vector.ext fun i hi => ?_, by rintro rfl; exact fun _ _ => rfl⟩
  exact register_inj.1 (h ⟨i, hi⟩ (List.mem_finRange _))

/-- The characters of a frame. -/
def frameChars (frame : Word) : List Char := '0' :: 'x' :: (hexNat 3 frame.toNat).toList

/-- The line of the stack is its frames with commas between them. -/
theorem toList_frames (s : CallStack) : (frames s).toList =
    "Stack: [".toList ++ (", ".toList.intercalate (s.frames.map frameChars) ++ [']']) := by
  have hframe :
      (String.toList ∘ fun frame : Word => s!"0x{hexNat 3 frame.toNat}") = frameChars := by
    funext frame
    simp [frameChars, toString]
  rw [frames, String.toList_append, String.toList_append, String.toList_intercalate, List.map_map,
    hframe, List.append_assoc]
  rfl

/-- **The line of the stack** tells its frames, however many there are. -/
theorem frames_inj : frames s = frames t ↔ s.frames = t.frames := by
  have hframe (frame : Word) : frameChars frame ≠ [] ∧ ',' ∉ frameChars frame := by
    have hdigits : ',' ∉ (hexNat 3 frame.toNat).toList := notMem_hexNat (by decide)
    refine ⟨List.cons_ne_nil _ _, ?_⟩
    simp only [frameChars, List.mem_cons, hdigits, or_false]
    decide
  have hframes (u : CallStack) : ∀ text ∈ u.frames.map frameChars, text ≠ [] ∧ ',' ∉ text :=
    List.forall_mem_map.2 fun frame _ => hframe frame
  have hinj : Function.Injective frameChars := fun v w h => by
    simp only [frameChars, List.cons_eq_cons, true_and] at h
    exact UInt16.toNat_inj.1 (hexNat_inj.1 (String.toList_inj.1 h))
  rw [← String.toList_inj, toList_frames, toList_frames, List.append_cancel_left_eq,
    List.append_cancel_right_eq]
  exact (intercalate_inj (hframes s) (hframes t)).trans (List.map_inj_right hinj)

/-- **The register dump** tells the registers, the timers and the frames. -/
theorem registers_inj : registers e = registers e' ↔
    e.registers = e'.registers ∧ e.index = e'.index ∧ e.pc = e'.pc ∧
      e.machine.stack.depth = e'.machine.stack.depth ∧ e.timers.delay = e'.timers.delay ∧
      e.timers.sound = e'.timers.sound ∧ e.machine.stack.frames = e'.machine.stack.frames := by
  rw [registers, registers]
  constructor
  · intro h
    obtain ⟨hregisters, hlines⟩ := List.append_inj h (by rw [List.length_map, List.length_map])
    simp only [toString, List.cons_eq_cons, String.append_right_inj, both_inj, frames_inj,
      UInt16.toNat_inj, UInt8.toNat_inj, and_true] at hlines
    exact ⟨registers_eq_iff.1 hregisters, hlines⟩
  · rintro ⟨hregisters, hindex, hpc, hdepth, hdelay, hsound, hframes⟩
    rw [hregisters, hindex, hpc, hdepth, hdelay, hsound, frames_inj.2 hframes]

/-! ## Lines of the memory dump -/

variable {start stop : Int} {address : Nat} {byte byte' : UInt8}

theorem cell_inj : cell address byte = cell address byte' ↔ byte = byte' := by
  have hvalue : hexNat 2 byte.toNat = hexNat 2 byte'.toNat ↔ byte = byte' :=
    hexNat_inj.trans UInt8.toNat_inj
  rw [← hvalue]
  exact String.append_right_inj _

/-- The lines of a range of cells. -/
def cells (m : Memory) (start count : Nat) : List String :=
  (List.range' start count).map fun a => cell a (m.byteAt a)

/-- A range inside the memory has one line for each of its cells. -/
theorem memory_of_range (hstart : 0 ≤ start) (hstop : start ≤ stop) (hend : stop ≤ memorySize)
    (m : Memory) : memory m start stop = .ok (cells m start.toNat (stop - start).toNat) :=
  if_pos ⟨hstart, hstop, hend⟩

/-- The lines of a range are those of its front and those of its back. -/
theorem cells_append (m : Memory) (start front back : Nat) :
    cells m start front ++ cells m (start + front) back = cells m start (front + back) := by
  rw [cells, cells, cells, ← List.map_append, ← List.range'_append, Nat.one_mul]

theorem byteAt_eq_iff {m m' : Memory} {k : Nat} (h : k < memorySize) :
    m.byteAt k = m'.byteAt k ↔ m[k]? = m'[k]? := by
  rw [Memory.byteAt, Memory.byteAt, Vector.getElem?_eq_getElem h, Vector.getElem?_eq_getElem h,
    Option.getD_some, Option.getD_some, Option.some_inj]

/-- Lines tell their cells. -/
theorem cells_inj {m m' : Memory} {start count : Nat} (h : start + count ≤ memorySize) :
    cells m start count = cells m' start count ↔
      ∀ k, start ≤ k → k < start + count → m[k]? = m'[k]? := by
  rw [cells, cells, List.map_inj_left]
  refine forall_congr' fun k => ?_
  rw [List.mem_range'_1, and_imp, cell_inj]
  exact forall_congr' fun _ => forall_congr' fun hk => byteAt_eq_iff (Nat.lt_of_lt_of_le hk h)

/-- A dump is refused exactly for a range that is not one of the memory, and with that range. -/
theorem memory_eq_error_iff {m : Memory} :
    memory m start stop = .error (.outOfBounds start (max (stop - start) 1)) ↔
      ¬ (0 ≤ start ∧ start ≤ stop ∧ stop ≤ memorySize) := by
  rw [memory]
  split <;> simp_all

/-- **The dumps are faithful.**  Two engines have the same register dump exactly if they have the
same registers, index, program counter, timers and frames, and as many of these.  A memory dump
has a line for every cell of its range; it is put together from the dumps of two parts, and two
memories have the same one exactly if they agree on the range.  A range that does not exist is
refused, and no other. -/
theorem dumps_are_faithful :
    (∀ e e' : Engine, registers e = registers e' ↔
      e.registers = e'.registers ∧ e.index = e'.index ∧ e.pc = e'.pc ∧
        e.machine.stack.depth = e'.machine.stack.depth ∧ e.timers.delay = e'.timers.delay ∧
        e.timers.sound = e'.timers.sound ∧ e.machine.stack.frames = e'.machine.stack.frames) ∧
    (∀ (m : Memory) (start middle stop : Int),
      0 ≤ start → start ≤ middle → middle ≤ stop → stop ≤ 4096 →
        ∃ front back, memory m start middle = .ok front ∧ memory m middle stop = .ok back ∧
          memory m start stop = .ok (front ++ back) ∧ (front ++ back).length = stop - start) ∧
    (∀ (m m' : Memory) (start stop : Int), 0 ≤ start → start ≤ stop → stop ≤ 4096 →
      (memory m start stop = memory m' start stop ↔
        ∀ k : Nat, start ≤ k → k < stop → m[k]? = m'[k]?)) ∧
    ∀ (m : Memory) (start stop : Int),
      memory m start stop = .error (.outOfBounds start (max (stop - start) 1)) ↔
        ¬ (0 ≤ start ∧ start ≤ stop ∧ stop ≤ 4096) := by
  refine ⟨fun _ _ => registers_inj, ?_, ?_, fun _ _ _ => memory_eq_error_iff⟩
  · intro m start middle stop hstart hmiddle hstop hend
    have hsum : (middle - start).toNat + (stop - middle).toNat = (stop - start).toNat := by omega
    have hbehind : start.toNat + (middle - start).toNat = middle.toNat := by omega
    refine ⟨_, _, memory_of_range hstart hmiddle (Int.le_trans hstop hend) m,
      memory_of_range (Int.le_trans hstart hmiddle) hstop hend m, ?_, ?_⟩
    · rw [memory_of_range hstart (Int.le_trans hmiddle hstop) hend, ← hsum, ← cells_append, hbehind]
    · rw [← hbehind, cells_append, hsum, cells, List.length_map, List.length_range']
      omega
  · intro m m' start stop hstart hstop hend
    have hfits : start.toNat + (stop - start).toNat ≤ memorySize := by
      change _ ≤ 4096
      omega
    rw [memory_of_range hstart hstop hend, memory_of_range hstart hstop hend, Except.ok.injEq,
      cells_inj hfits]
    refine forall_congr' fun k => ?_
    rw [Int.toNat_le, show k < start.toNat + (stop - start).toNat ↔ (k : Int) < stop by omega]

/-- Two memories that differ in one cell, dumped with it and up to it; and engines that differ
beside their registers, or in a frame of their stacks. -/
theorem dumps_are_faithful_of_one_cell :
    let m : Memory := .replicate memorySize 0
    let m' : Memory := m.overlay 0xFFF [7]
    (∃ front back, memory m 0 0xFFF = .ok front ∧ memory m 0xFFF 0x1000 = .ok back ∧
      memory m 0 0x1000 = .ok (front ++ back)) ∧
      memory m 0 0xFFF = memory m' 0 0xFFF ∧ memory m 0xFFF 0x1000 ≠ memory m' 0xFFF 0x1000 ∧
      registers {} = registers { halted := true } ∧
      registers { machine.stack := .ofFrames [0x200] } ≠
        registers { machine.stack := .ofFrames [0x202] } := by
  intro m m'
  obtain ⟨hregisters, hcut, htell, _⟩ := dumps_are_faithful
  obtain ⟨front, back, hfront, hback, hwhole, _⟩ :=
    hcut m 0 0xFFF 0x1000 (by decide) (by decide) (by decide) (by decide)
  refine ⟨⟨front, back, hfront, hback, hwhole⟩, ?_, fun h => ?_, ?_, fun h => ?_⟩
  · refine (htell m m' 0 0xFFF (by decide) (by decide) (by decide)).2 fun k _ hk => ?_
    exact (Memory.getElem?_overlay_of_outside (by omega)).symm
  · have hcell := (htell m m' 0xFFF 0x1000 (by decide) (by decide) (by decide)).1 h 0xFFF
      (by decide) (by decide)
    exact absurd hcell (by decide +kernel)
  · exact (hregisters _ _).2 ⟨rfl, rfl, rfl, rfl, rfl, rfl, rfl⟩
  · obtain ⟨_, _, _, _, _, _, hframes⟩ := (hregisters _ _).1 h
    exact absurd hframes (by decide)

end Dump

end Chip8
