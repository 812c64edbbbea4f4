import Chip8.Machine.CallStack

/-!
# Proofs/CallStack — the call stack as a list of frames

A call stack is *tidy* if it is the one that its frames make: no more than sixteen of them, and
zeros behind.  On tidy stacks `push` appends to the list of frames and `pop` takes its last element
off, so a stack is known completely, all sixteen entries of it, once its frames are.
-/

namespace Chip8

namespace CallStack

variable {s t : CallStack} {fs : List Word} {address : Int} {frame : Word}

@[simp] theorem depth_ofFrames (fs : List Word) : (ofFrames fs).depth = fs.length := rfl

@[simp] theorem ofFrames_nil : ofFrames [] = {} := by
  rw [ofFrames, mk.injEq]
  exact ⟨by ext i hi; simp, rfl⟩

/-- The stack made of entries has these entries below its pointer. -/
theorem frames_ofFrames (h : fs.length ≤ stackDepth) : (ofFrames fs).frames = fs := by
  have hs : stackDepth = 16 := rfl
  refine List.ext_getElem (by simp [frames]; omega) fun i h₁ h₂ => ?_
  simp [frames, ofFrames, h₂]

/-! ## When the stack refuses -/

/-- A push is refused exactly on a full stack. -/
theorem push_eq_error_iff {fault : Fault} :
    s.push address = .error fault ↔ stackDepth ≤ s.depth ∧ .stackOverflow address = fault := by
  unfold push
  split
  · next h => simp [h]
  · next h => simp [h]

/-- A pop is refused exactly on an empty stack. -/
theorem pop_eq_error_iff {fault : Fault} :
    s.pop = .error fault ↔ s.depth = 0 ∧ .stackUnderflow = fault := by
  unfold pop
  split
  · next h => simp [h]
  · next h => simp [h]

/-! ## The operations on lists of frames -/

/-- A push on a stack made of entries adds one at the end. -/
theorem push_ofFrames (address : Int) (h : fs.length < stackDepth) :
    (ofFrames fs).push address = .ok (ofFrames (fs ++ [frameOf address])) := by
  rw [push, depth_ofFrames, if_neg (by omega), Except.ok.injEq, mk.injEq]
  refine ⟨?_, by simp⟩
  ext i hi
  simp only [ofFrames, Vector.getElem_setIfInBounds, Vector.getElem_ofFn, List.getElem?_append]
  grind

/-- A pop of a stack made of entries takes the last one off. -/
theorem pop_ofFrames_concat (frame : Word) (h : fs.length < stackDepth) :
    (ofFrames (fs ++ [frame])).pop = .ok (ofFrames fs, frame) := by
  unfold pop
  split
  · next h0 => simp at h0
  · next d hd =>
    obtain rfl : d = fs.length := by simpa using hd.symm
    have hlast : (ofFrames (fs ++ [frame])).entries[fs.length]?.getD 0 = frame := by
      simp [ofFrames, h]
    rw [hlast, Except.ok.injEq, Prod.mk.injEq, mk.injEq]
    refine ⟨⟨?_, rfl⟩, rfl⟩
    ext i hi
    simp only [ofFrames, Vector.getElem_setIfInBounds, Vector.getElem_ofFn, List.getElem?_append]
    grind

/-! ## Tidy stacks -/

/-- That a stack is the one its frames make. -/
def Tidy (s : CallStack) : Prop := ofFrames s.frames = s

/-- A stack made of at most sixteen entries is tidy. -/
theorem tidy_ofFrames (h : fs.length ≤ stackDepth) : Tidy (ofFrames fs) := by
  rw [Tidy, frames_ofFrames h]

/-- A tidy stack is known by its frames. -/
theorem Tidy.eq_of_frames (hs : s.Tidy) (ht : t.Tidy) (h : s.frames = t.frames) : s = t := by
  rw [← hs, ← ht, h]

theorem Tidy.length_frames (hs : s.Tidy) : s.frames.length = s.depth := congrArg depth hs

/-- The pointer of a tidy stack is at most sixteen. -/
theorem Tidy.depth_le (hs : s.Tidy) : s.depth ≤ stackDepth := by
  rw [← hs.length_frames, frames, List.length_take, Vector.length_toList]
  exact Nat.min_le_right _ _

/-- A tidy stack that takes a push had room for it. -/
theorem Tidy.length_lt_of_push (hs : s.Tidy) (h : s.push address = .ok t) :
    s.frames.length < stackDepth := by
  rw [hs.length_frames]
  refine Nat.lt_of_not_le fun hfull => ?_
  cases h.symm.trans (push_eq_error_iff.2 ⟨hfull, rfl⟩)

/-- **A push on a tidy stack** appends what is kept of the address. -/
theorem Tidy.push (hs : s.Tidy) (h : s.push address = .ok t) :
    t.Tidy ∧ t.frames = s.frames ++ [frameOf address] := by
  refine ⟨?_, frames_push h⟩
  have hroom := hs.length_lt_of_push h
  rw [← hs, push_ofFrames address hroom] at h
  cases h
  exact tidy_ofFrames (by rw [List.length_append]; exact hroom)

/-- **A pop from a tidy stack** takes the last frame. -/
theorem Tidy.pop (hs : s.Tidy) (h : s.pop = .ok (t, frame)) :
    t.Tidy ∧ s.frames = t.frames ++ [frame] := by
  have hf := frames_pop hs.depth_le h
  refine ⟨?_, hf⟩
  have hd : t.frames.length < stackDepth := by
    have hlen := congrArg List.length hf
    have := hs.depth_le
    rw [hs.length_frames, List.length_append, List.length_singleton] at hlen
    omega
  rw [← hs, hf, pop_ofFrames_concat frame hd] at h
  exact (Prod.mk.inj (Except.ok.inj h)).1

end CallStack

end Chip8
