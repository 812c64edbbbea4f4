import Chip8.Log.Entry

/-!
# Interaction — operations that deal with a host, write to the log, and may fail

An operation of the engine returns a new engine or an error.  On the way it may have dealt with its
host — a keyboard, say, whose own state `σ` moves on with every question — and written log entries.
A failure undoes neither: an `Outcome` has the host and the entries beside the result.
-/

namespace Chip8

/-- What came of an operation. -/
structure Outcome (σ α : Type) where
  result : Except Error α
  host : σ
  log : List Entry

namespace Outcome

variable {σ α β : Type}

/-- Goes on after a success; a failure stands. -/
def andThen (o : Outcome σ α) (f : α → σ → Outcome σ β) : Outcome σ β :=
  match o.result with
  | .ok a =>
    let next := f a o.host
    { next with log := o.log ++ next.log }
  | .error e => { o with result := .error e }

end Outcome

/-- An operation that may deal with its host, write to the log, and fail. -/
def Interaction (σ α : Type) : Type := σ → Outcome σ α

namespace Interaction

variable {σ τ α β : Type}

/-- The operation that only returns a value. -/
def done (a : α) : Interaction σ α := fun s => ⟨.ok a, s, []⟩

/-- One operation after another. -/
def andThen (x : Interaction σ α) (f : α → Interaction σ β) : Interaction σ β :=
  fun s => (x s).andThen f

instance : Monad (Interaction σ) where
  pure := done
  bind := andThen

/-- The operation that only writes to the log. -/
def say (entries : List Entry) : Interaction σ Unit := fun s => ⟨.ok (), s, entries⟩

/-- The operation that only changes the host. -/
def modify (f : σ → σ) : Interaction σ Unit := fun s => ⟨.ok (), f s, []⟩

/-- The operation that only looks at the host. -/
def get : Interaction σ σ := fun s => ⟨.ok s, s, []⟩

/-- The operation on a part of a larger host, which takes the part back as the operation leaves it,
also when it fails. -/
def within (part : τ → σ) (put : τ → σ → τ) (x : Interaction σ α) : Interaction τ α := fun t =>
  let o := x (part t)
  ⟨o.result, put t o.host, o.log⟩

/-- The operation that only succeeds or fails. -/
def ofExcept (x : Except Error α) : Interaction σ α := fun s => ⟨x, s, []⟩

instance : MonadLift (Except Error) (Interaction σ) := ⟨ofExcept⟩

instance : MonadLift (Except Fault) (Interaction σ) := ⟨fun x => ofExcept (x.mapError .fault)⟩

@[simp] theorem pure_apply (a : α) (s : σ) : (pure a : Interaction σ α) s = ⟨.ok a, s, []⟩ := rfl

@[simp] theorem bind_apply (x : Interaction σ α) (f : α → Interaction σ β) (s : σ) :
    (x >>= f) s = (x s).andThen f := rfl

@[simp] theorem say_apply (entries : List Entry) (s : σ) :
    (say entries : Interaction σ Unit) s = ⟨.ok (), s, entries⟩ := rfl

@[simp] theorem modify_apply (f : σ → σ) (s : σ) : modify f s = ⟨.ok (), f s, []⟩ := rfl

@[simp] theorem get_apply (s : σ) : (get : Interaction σ σ) s = ⟨.ok s, s, []⟩ := rfl

@[simp] theorem within_apply (part : τ → σ) (put : τ → σ → τ) (x : Interaction σ α) (t : τ) :
    within part put x t = ⟨(x (part t)).result, put t (x (part t)).host, (x (part t)).log⟩ := rfl

@[simp] theorem ofExcept_apply (x : Except Error α) (s : σ) :
    (ofExcept x : Interaction σ α) s = ⟨x, s, []⟩ := rfl

theorem ext {x y : Interaction σ α} (h : ∀ s, x s = y s) : x = y := funext h

instance : LawfulMonad (Interaction σ) := by
  refine LawfulMonad.mk' (Interaction σ) (fun x => ?_) (fun a f => ?_) (fun x f g => ?_)
  · refine ext fun s => ?_
    change (x s).andThen (fun a => (pure a : Interaction σ _)) = x s
    rcases x s with ⟨_ | a, k, log⟩ <;> simp [Outcome.andThen]
  · refine ext fun s => ?_
    rw [bind_apply]
    rfl
  · refine ext fun s => ?_
    simp only [bind_apply]
    rcases x s with ⟨_ | a, k, log⟩
    · rfl
    · simp only [Outcome.andThen, bind_apply]
      rcases f a k with ⟨_ | b, k', log'⟩ <;> simp [List.append_assoc]

end Interaction

end Chip8
