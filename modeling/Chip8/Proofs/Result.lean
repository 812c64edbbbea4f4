import Chip8.Interaction

/-!
# Proofs/Result — what comes of operations in sequence

Operations of the engine are sequences of smaller ones.  Read on results alone, a sequence of
interactions is the sequence of their results (`Outcome.result_andThen`): the host and the log
drop out.  The lemmas on `Except` take such a sequence apart.
-/

namespace Except

variable {ε δ α β : Type}

@[simp] theorem ok_bind {a : α} {f : α → Except ε β} : (.ok a : Except ε α) >>= f = f a := rfl

/-- Two parts succeed if the first does and the second does on what it gives. -/
theorem bind_eq_ok_iff {x : Except ε α} {f : α → Except ε β} {b : β} :
    x >>= f = .ok b ↔ ∃ a, x = .ok a ∧ f a = .ok b := by
  cases x <;> simp [bind, Except.bind]

/-- What comes after an operation matters only where it succeeds. -/
theorem bind_congr_ok {x : Except ε α} {f g : α → Except ε β} (h : ∀ a, x = .ok a → f a = g a) :
    x >>= f = x >>= g := by
  cases x with
  | error err => rfl
  | ok a => exact h a rfl

/-- Two parts fail where the first fails, or the second on what the first gives. -/
theorem bind_eq_error_iff {x : Except ε α} {f : α → Except ε β} {err : ε} :
    x >>= f = .error err ↔ x = .error err ∨ ∃ a, x = .ok a ∧ f a = .error err := by
  cases x <;> simp [bind, Except.bind]

theorem bind_pure_eq_error_iff {x : Except ε α} {f : α → β} {err : ε} :
    (x >>= fun a => pure (f a)) = .error err ↔ x = .error err := by
  cases x <;> simp [bind, Except.bind, pure, Except.pure]

/-- What is mapped succeeds as it did. -/
theorem map_eq_ok_iff {x : Except ε α} {f : α → β} {b : β} :
    x.map f = .ok b ↔ ∃ a, x = .ok a ∧ f a = b := by
  cases x <;> simp [Except.map]

/-- What is mapped fails as it did. -/
theorem map_eq_error_iff {x : Except ε α} {f : α → β} {err : ε} :
    x.map f = .error err ↔ x = .error err := by
  cases x <;> simp [Except.map]

@[simp] theorem mapError_ok {f : ε → δ} {a : α} : (.ok a : Except ε α).mapError f = .ok a := rfl

@[simp] theorem mapError_error {f : ε → δ} {err : ε} :
    (.error err : Except ε α).mapError f = .error (f err) := rfl

/-- Errors under another name leave what succeeds. -/
theorem mapError_eq_ok_iff {x : Except ε α} {f : ε → δ} {a : α} :
    x.mapError f = .ok a ↔ x = .ok a := by
  cases x <;> simp

/-- An error under another name has its cause. -/
theorem mapError_eq_error_iff {x : Except ε α} {f : ε → δ} {err : δ} :
    x.mapError f = .error err ↔ ∃ cause, x = .error cause ∧ f cause = err := by
  cases x <;> simp

/-- A result is a success unless it is some failure. -/
theorem exists_ok_iff {x : Except ε α} : (∃ a, x = .ok a) ↔ ∀ err, x ≠ .error err := by
  cases x <;> simp

theorem eq_ok_of_toOption {x : Except ε α} {a : α} (h : x.toOption = some a) : x = .ok a := by
  cases x with
  | error err => cases h
  | ok b => exact congrArg Except.ok (Option.some.inj h)

end Except

namespace Chip8

variable {σ α β : Type}

/-- **The result of a sequence** is the sequence of the results; each part deals with the host that
the part before it left. -/
@[simp] theorem Outcome.result_andThen (o : Outcome σ α) (f : α → Interaction σ β) :
    (o.andThen f).result = o.result >>= fun a => (f a o.host).result := by
  rcases o with ⟨_ | a, host, log⟩ <;> rfl

namespace Interaction

/-- The second part runs on the host that the first leaves. -/
theorem result_bind (x : Interaction σ α) (f : α → Interaction σ β) (s : σ) :
    ((x >>= f) s).result = (x s).result >>= fun a => (f a (x s).host).result :=
  Outcome.result_andThen _ _

theorem result_map (f : α → β) (x : Interaction σ α) (s : σ) :
    ((f <$> x) s).result = (x s).result.map f := by
  rw [map_eq_pure_bind, result_bind]
  cases (x s).result <;> rfl

@[simp] theorem lift_apply (x : Except Error α) (s : σ) :
    (liftM x : Interaction σ α) s = ⟨x, s, []⟩ := rfl

@[simp] theorem liftFault_apply (x : Except Fault α) (s : σ) :
    (liftM x : Interaction σ α) s = ⟨x.mapError .fault, s, []⟩ := rfl

end Interaction

end Chip8
