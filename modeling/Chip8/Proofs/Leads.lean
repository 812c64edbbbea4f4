import Chip8.Proofs.Result

/-!
# Proofs/Leads — what holds of a host after an interaction that succeeds

An interaction *leads* from a condition on its host to another if every success that starts in the
one ends in the other; what a failure leaves behind is not spoken of.  There is a rule for each way
of building interactions, so a `do` block is followed line by line.
-/

namespace Chip8

namespace Interaction

variable {σ α β : Type} {P : σ → Prop} {Q : α → σ → Prop}

/-- That a success from `P` ends in `Q`. -/
def Leads (P : σ → Prop) (x : Interaction σ α) (Q : α → σ → Prop) : Prop :=
  ∀ s a, P s → (x s).result = .ok a → Q a (x s).host

/-- That a success keeps a condition. -/
def Keeps (P : σ → Prop) (x : Interaction σ α) : Prop := Leads P x fun _ => P

theorem Leads.pure {a : α} (h : ∀ s, P s → Q a s) : Leads P (Pure.pure a) Q := by
  intro s b hs hb
  cases hb
  exact h s hs

/-- What the first part leads to is assumed of the second. -/
theorem Leads.bind {x : Interaction σ α} {f : α → Interaction σ β} {R : β → σ → Prop}
    (hx : Leads P x Q) (hf : ∀ a, Leads (Q a) (f a) R) : Leads P (x >>= f) R := by
  intro s b hs hb
  rw [result_bind] at hb
  obtain ⟨a, ha, hb⟩ := Except.bind_eq_ok_iff.1 hb
  have hhost : ((x >>= f) s).host = (f a (x s).host).host := by
    simp only [bind_apply, Outcome.andThen, ha]
  rw [hhost]
  exact hf a _ b (hx s a hs ha) hb

/-- What does not depend on the host is assumed. -/
theorem Leads.of_and {p : Prop} {x : Interaction σ α} (h : p → Leads P x Q) :
    Leads (fun s => p ∧ P s) x Q :=
  fun s a hs => h hs.1 s a hs.2

/-- What is looked at is the host as it is. -/
theorem Leads.get : Leads P get fun a s => a = s ∧ P s := by
  intro s a hs ha
  cases ha
  exact ⟨rfl, hs⟩

theorem Leads.modify {f : σ → σ} {Q : Unit → σ → Prop} (h : ∀ s, P s → Q () (f s)) :
    Leads P (modify f) Q :=
  fun s _ hs _ => h s hs

theorem Leads.say {entries : List Entry} {Q : Unit → σ → Prop} (h : ∀ s, P s → Q () s) :
    Leads P (say entries) Q :=
  fun s _ hs _ => h s hs

/-- A check tells that it passed and leaves the host. -/
theorem Leads.lift {x : Except Error α} (h : ∀ s a, P s → x = .ok a → Q a s) :
    Leads P (liftM x) Q :=
  fun s a hs ha => h s a hs ha

theorem Leads.liftFault {x : Except Fault α} (h : ∀ s a, P s → x = .ok a → Q a s) :
    Leads P (liftM x) Q :=
  fun s a hs ha => h s a hs (Except.mapError_eq_ok_iff.1 ha)

end Interaction

end Chip8
