import Chip8.Proofs.CallStack
import Chip8.Proofs.Simulation

/-!
# Proofs/BoundedStack — the call stack is a list of at most sixteen numbers

The machine keeps return addresses in sixteen entries and a depth.  To whoever only pushes and pops
it is a list that takes no more than sixteen numbers, and keeps of each number its low twelve bits
(`boundedList`).  The relation that carries this through any requests is that the stack is tidy and
its frames are the list (`Lists`); since a tidy stack is known by its frames, a pop gives back all
sixteen entries as they were before the push.
-/

namespace Chip8

namespace CallStack

/-- What is asked of a stack. -/
inductive Request
  | push (address : Int)
  | pop
  deriving DecidableEq, Repr

/-- The call stack under requests; a request that is refused leaves it as it is. -/
def service : Service CallStack Request (Except Fault (Option Nat)) where
  serve s
    | .push address =>
      match s.push address with
      | .ok after => (.ok none, after)
      | .error fault => (.error fault, s)
    | .pop =>
      match s.pop with
      | .ok (after, frame) => (.ok (some frame.toNat), after)
      | .error fault => (.error fault, s)

/-- A list of at most sixteen numbers under requests; the newest number is the last. -/
def boundedList : Service (List Nat) Request (Except Fault (Option Nat)) where
  serve fs
    | .push address =>
      if fs.length = 16 then (.error (.stackOverflow address), fs)
      else (.ok none, fs ++ [(address % 4096).toNat])
    | .pop =>
      match fs.getLast? with
      | none => (.error .stackUnderflow, fs)
      | some frame => (.ok (some frame), fs.dropLast)

variable {s t : CallStack} {fs : List Nat} {address : Int} {frame : Word}

/-- The entry for an address is the address modulo 4096. -/
theorem toNat_frameOf (address : Int) : (frameOf address).toNat = (address % 4096).toNat := by
  have hsize : (memorySize : Int) = 4096 := rfl
  rw [frameOf, hsize, UInt16.toNat_ofNat']
  omega

/-- In a tidy stack the entries that are not in use are zero. -/
theorem Tidy.getElem?_entries (hs : s.Tidy) {i : Nat} (h : s.depth ≤ i) (hi : i < 16) :
    s.entries[i]? = some 0 := by
  have hlength := hs.length_frames
  rw [← hs, ofFrames, Vector.getElem?_ofFn]
  simp [stackDepth, hi, hlength, h]

/-- What is popped right after a push is what was pushed, and the stack is the one before it. -/
theorem Tidy.pop_of_push (hs : s.Tidy) (h : s.push address = .ok t) :
    t.pop = .ok (s, frameOf address) := by
  have hroom := hs.length_lt_of_push h
  rw [← hs, push_ofFrames address hroom] at h
  cases h
  rw [pop_ofFrames_concat _ hroom, hs]

/-! ## Requests -/

/-- That a stack is tidy, and its frames are a list. -/
structure Lists (s : CallStack) (fs : List Nat) : Prop where
  tidy : s.Tidy
  frames_eq : s.frames.map UInt16.toNat = fs

theorem Lists.depth_eq (h : Lists s fs) : s.depth = fs.length := by
  rw [← h.frames_eq, List.length_map, h.tidy.length_frames]

theorem lists_nil : Lists {} [] where
  tidy := by
    rw [← ofFrames_nil]
    exact tidy_ofFrames (Nat.zero_le _)
  frames_eq := rfl

/-- A push on the stack adds to the end of the list. -/
theorem Lists.push (h : Lists s fs) (hpush : s.push address = .ok t) :
    Lists t (fs ++ [(address % 4096).toNat]) where
  tidy := (h.tidy.push hpush).1
  frames_eq := by
    rw [(h.tidy.push hpush).2, List.map_append, h.frames_eq, List.map_singleton, toNat_frameOf]

/-- A pop of the stack takes from the end of the list. -/
theorem Lists.pop (h : Lists s fs) (hpop : s.pop = .ok (t, frame)) :
    ∃ rest, fs = rest ++ [frame.toNat] ∧ Lists t rest := by
  obtain ⟨htidy, hframes⟩ := h.tidy.pop hpop
  refine ⟨t.frames.map UInt16.toNat, ?_, htidy, rfl⟩
  rw [← h.frames_eq, hframes, List.map_append, List.map_singleton]

/-- **One request**: stack and list answer alike, and the stack is the list again. -/
theorem simulates_boundedList : service.Simulates boundedList Lists := by
  intro s fs request h
  have hdepth := h.depth_eq
  have hle : s.depth ≤ 16 := h.tidy.depth_le
  cases request with
  | push address =>
    simp only [service, boundedList]
    cases hpush : s.push address with
    | ok t =>
      have hroom : fs.length ≠ 16 := by
        intro hfull
        have hover : stackDepth ≤ s.depth := Nat.le_of_eq (hdepth.trans hfull).symm
        cases hpush.symm.trans (push_eq_error_iff.2 ⟨hover, rfl⟩)
      rw [if_neg hroom]
      exact ⟨rfl, h.push hpush⟩
    | error fault =>
      obtain ⟨hfull, rfl⟩ := push_eq_error_iff.1 hpush
      have hlength : fs.length = 16 := by
        rw [← hdepth]
        exact Nat.le_antisymm hle hfull
      rw [if_pos hlength]
      exact ⟨rfl, h⟩
  | pop =>
    simp only [service, boundedList]
    cases hpop : s.pop with
    | ok popped =>
      obtain ⟨t, frame⟩ := popped
      obtain ⟨rest, rfl, hrest⟩ := h.pop hpop
      rw [List.getLast?_concat, List.dropLast_concat]
      exact ⟨rfl, hrest⟩
    | error fault =>
      obtain ⟨hempty, rfl⟩ := pop_eq_error_iff.1 hpop
      obtain rfl : fs = [] := List.length_eq_zero_iff.1 (hdepth.symm.trans hempty)
      exact ⟨rfl, h⟩

/-- **The call stack is a list of at most sixteen numbers.**  From the empty stack on, any requests
are answered as the list answers them: a push is refused if there are sixteen numbers, and otherwise
appends the low twelve bits; a pop is refused if there are none, and otherwise takes the last; and
what is refused changes nothing.  After them the depth is the length of the list, the frames are its
numbers, oldest first, and every other entry is zero; so a pop undoes a push on all entries. -/
theorem requests_as_on_bounded_list (requests : List Request) :
    service.answers {} requests = boundedList.answers [] requests ∧
    let s := service.after {} requests
    let fs := boundedList.after [] requests
    s.depth = fs.length ∧ s.frames.map UInt16.toNat = fs ∧
      (∀ i, s.depth ≤ i → i < 16 → s.entries[i]? = some 0) ∧
      ∀ address t, s.push address = .ok t →
        ∃ frame, t.pop = .ok (s, frame) ∧ frame.toNat = (address % 4096).toNat := by
  refine ⟨simulates_boundedList.answers_eq lists_nil requests, ?_⟩
  intro s fs
  have h : Lists s fs := simulates_boundedList.after lists_nil requests
  exact ⟨h.depth_eq, h.frames_eq, fun _ => h.tidy.getElem?_entries,
    fun address t hpush => ⟨_, h.tidy.pop_of_push hpush, toNat_frameOf address⟩⟩

/-- Seventeen pushes, of which the last is refused, and a pop that leaves fifteen numbers. -/
theorem requests_as_on_bounded_list_of_seventeen :
    let requests := List.replicate 17 (Request.push 0x12345) ++ [.pop]
    let s := service.after {} requests
    (∃ t, s.push (-1) = .ok t) ∧ s.frames.map UInt16.toNat = List.replicate 15 0x345 ∧
      ∃ t frame, s.push (-1) = .ok t ∧ t.pop = .ok (s, frame) ∧ frame.toNat = 0xFFF := by
  intro requests s
  obtain ⟨_, _, hframes, _, hpop⟩ := requests_as_on_bounded_list requests
  obtain ⟨t, ht⟩ : ∃ t, s.push (-1) = .ok t := ⟨_, rfl⟩
  obtain ⟨frame, hframe, hval⟩ := hpop (-1) t ht
  exact ⟨⟨t, ht⟩, hframes, t, frame, ht, hframe, hval⟩

end CallStack

end Chip8
