/-!
# Proofs/Simulation — two services that answer alike

A service has a state, takes calls one after another, answers each of them and moves on.  Two
services answer a whole list of calls alike if their states can be related so that they answer one
call alike and are related afterwards (`Service.Simulates`): what is owed is said for one call, and
the induction over the calls is made here (`Simulates.answers_eq`, `Simulates.after`).

What a call is answered depends on the calls before it only through the state that they lead to, so
the answers can be read off place by place (`answers_eq_mapIdx`).
-/

namespace Chip8

/-- Something with states `σ` that gives answers `α` to calls `κ`. -/
structure Service (σ κ α : Type) where
  /-- The answer to a call, and the state after it. -/
  serve : σ → κ → α × σ

namespace Service

variable {σ τ κ α : Type}

/-- The answers to some calls, one after another. -/
def answers (v : Service σ κ α) : σ → List κ → List α
  | _, [] => []
  | s, c :: calls => (v.serve s c).1 :: answers v (v.serve s c).2 calls

/-- The state after some calls. -/
def after (v : Service σ κ α) (s : σ) (calls : List κ) : σ :=
  calls.foldl (fun s c => (v.serve s c).2) s

variable {v : Service σ κ α} {v' : Service τ κ α}

theorem answers_cons (s : σ) (c : κ) (calls : List κ) :
    v.answers s (c :: calls) = (v.serve s c).1 :: v.answers (v.serve s c).2 calls := rfl

theorem after_cons (s : σ) (c : κ) (calls : List κ) :
    v.after s (c :: calls) = v.after (v.serve s c).2 calls := rfl

/-- **Each call is answered in the state that the calls before it lead to.** -/
theorem answers_eq_mapIdx (s : σ) (calls : List κ) :
    v.answers s calls = calls.mapIdx fun i c => (v.serve (v.after s (calls.take i)) c).1 := by
  induction calls generalizing s with
  | nil => rfl
  | cons c calls ih =>
    rw [answers_cons, ih, List.mapIdx_cons]
    rfl

/-- What holds of every single answer holds of the answers to any calls. -/
theorem forall_mem_answers {P : α → Prop} (h : ∀ s c, P (v.serve s c).1) (s : σ) (calls : List κ) :
    ∀ a ∈ v.answers s calls, P a := by
  intro a ha
  rw [answers_eq_mapIdx, List.mem_mapIdx] at ha
  obtain ⟨i, hi, rfl⟩ := ha
  exact h _ _

/-! ## Simulations -/

/-- That related states answer every call alike, and are related after it. -/
def Simulates (v : Service σ κ α) (v' : Service τ κ α) (R : σ → τ → Prop) : Prop :=
  ∀ s t c, R s t → (v.serve s c).1 = (v'.serve t c).1 ∧ R (v.serve s c).2 (v'.serve t c).2

variable {R : σ → τ → Prop} {s : σ} {t : τ}

/-- **Related states answer any calls alike.** -/
theorem Simulates.answers_eq (h : v.Simulates v' R) (hst : R s t) (calls : List κ) :
    v.answers s calls = v'.answers t calls := by
  induction calls generalizing s t with
  | nil => rfl
  | cons c calls ih =>
    obtain ⟨hanswer, hnext⟩ := h s t c hst
    rw [answers_cons, answers_cons, hanswer, ih hnext]

/-- **Related states are related after any calls.** -/
theorem Simulates.after (h : v.Simulates v' R) (hst : R s t) (calls : List κ) :
    R (v.after s calls) (v'.after t calls) := by
  induction calls generalizing s t with
  | nil => exact hst
  | cons c calls ih => exact ih (h s t c hst).2

end Service

end Chip8
