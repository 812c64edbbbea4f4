import Chip8.Fault

/-!
# Machine/CallStack — sixteen entries for return addresses

The first `depth` entries are in use, oldest first; the others are zero.  An address is pushed by
its low twelve bits.
-/

namespace Chip8

/-- The call stack: its entries, and how many of them are in use. -/
structure CallStack where
  entries : Vector Word stackDepth := .replicate stackDepth 0
  depth : Nat := 0
  deriving DecidableEq

namespace CallStack

/-- The entries in use, oldest first. -/
def frames (s : CallStack) : List Word := s.entries.toList.take s.depth

/-- The stack with the given frames, oldest first; at most sixteen of them fit. -/
def ofFrames (frames : List Word) : CallStack where
  entries := .ofFn fun i => frames[i.val]?.getD 0
  depth := frames.length

/-- What is kept of an address: its low twelve bits. -/
def frameOf (address : Int) : Word := UInt16.ofNat (address % memorySize).toNat

/-- The stack with one more frame. -/
def push (s : CallStack) (address : Int) : Except Fault CallStack :=
  if stackDepth ≤ s.depth then .error (.stackOverflow address)
  else
    .ok {
      entries := s.entries.setIfInBounds s.depth (frameOf address)
      depth := s.depth + 1 }

/-- The stack without its newest frame, and that frame. -/
def pop (s : CallStack) : Except Fault (CallStack × Word) :=
  match s.depth with
  | 0 => .error .stackUnderflow
  | depth + 1 =>
    .ok ({ entries := s.entries.setIfInBounds depth 0, depth }, s.entries[depth]?.getD 0)

/-! ## What the operations do to the frames -/

/-- A push adds its entry on top. -/
theorem frames_push {s t : CallStack} {address : Int} (h : s.push address = .ok t) :
    t.frames = s.frames ++ [frameOf address] := by
  unfold push at h
  split at h
  · cases h
  · next hd =>
    cases h
    have hd : s.depth < stackDepth := Nat.lt_of_not_le hd
    simp only [frames, Vector.toList_setIfInBounds]
    rw [List.take_add_one, List.take_set_of_le (Nat.le_refl s.depth)]
    simp [hd]

/-- A pop takes the entry on top. -/
theorem frames_pop {s t : CallStack} {frame : Word} (hs : s.depth ≤ stackDepth)
    (h : s.pop = .ok (t, frame)) : s.frames = t.frames ++ [frame] := by
  unfold pop at h
  split at h
  · cases h
  · next depth hd =>
    cases h
    have hdepth : depth < stackDepth := by omega
    simp only [frames, hd, Vector.toList_setIfInBounds]
    rw [List.take_add_one, List.take_set_of_le (Nat.le_refl depth)]
    simp [hdepth]

end CallStack

end Chip8
