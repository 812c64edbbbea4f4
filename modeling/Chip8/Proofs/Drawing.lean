import Chip8.Proofs.Effects
import Chip8.Proofs.Reachable

/-!
# Proofs/Drawing — nothing is drawn unmarked

The screen carries a mark that says whether it was drawn on.  Two instructions draw, and both set
the mark, also where no pixel changes.  So an engine that is clean after an operation was clean
before it, and the picture is the same (`CleanSince`); a reset, which darkens the screen, sets the
mark as well.  The relation is transitive and thus passes from operations to runs of them.
-/

namespace Chip8

namespace Engine

variable {σ : Type} {kb : Keyboard σ} {s : σ} {e e' e'' : Engine} {w : Word} {i : Instruction}

/-- That an engine, if it is clean now, was clean before and has shown the same picture since. -/
def CleanSince (e e' : Engine) : Prop :=
  e'.machine.dirty = false → e.machine.dirty = false ∧ e'.machine.picture = e.machine.picture

theorem CleanSince.refl (e : Engine) : CleanSince e e := fun h => ⟨h, rfl⟩

theorem CleanSince.trans (h : CleanSince e e') (h' : CleanSince e' e'') : CleanSince e e'' := by
  intro hclean
  obtain ⟨hclean', hpicture'⟩ := h' hclean
  obtain ⟨hclean'', hpicture⟩ := h hclean'
  exact ⟨hclean'', hpicture'.trans hpicture⟩

/-- An engine that is dirty now leaves nothing to say. -/
theorem cleanSince_of_dirty (h : e'.machine.dirty = true) : CleanSince e e' :=
  fun hclean => absurd (h.symm.trans hclean) (by decide)

/-! ## Words -/

/-- Two forms write the picture. -/
theorem picture_mem_writes : .picture ∈ e.writes i ↔ ["00E0", "Dxyn"].contains i.form := by
  cases i with
  | operate op x y =>
    cases op <;> simp [writes, Operation.setsFlag, Instruction.form, Operation.form]
  | _ => simp [writes, movedIndex, Instruction.form]

/-- After a word the screen is dirty if it was, or if the word draws. -/
theorem dirty_of_executeWord (h : (e.executeWord kb w s).result = .ok e')
    (hi : Instruction.ofWord? w = some i) :
    e'.machine.dirty = (e.machine.dirty || ["00E0", "Dxyn"].contains i.form) := by
  obtain ⟨j, pressed, after, flow, hj, _, hperform, rfl⟩ := executeWord_eq_ok_iff.1 h
  obtain rfl := Option.some.inj (hi.symm.trans hj)
  have hflow : Location.dirty.Same after (after.follow flow) := same_follow (by simp)
  exact Eq.trans hflow (dirty_of_perform hperform)

/-- A word that leaves the screen clean has not drawn. -/
theorem cleanSince_of_executeWord (h : (e.executeWord kb w s).result = .ok e') :
    CleanSince e e' := by
  obtain ⟨i, _, _, _, hi, _, _, _⟩ := executeWord_eq_ok_iff.1 h
  have hdirty := dirty_of_executeWord h hi
  by_cases hdraws : .picture ∈ e.writes i
  · refine cleanSince_of_dirty ?_
    rw [hdirty, picture_mem_writes.1 hdraws, Bool.or_true]
  · intro hclean
    rw [hdirty, Bool.or_eq_false_iff] at hclean
    exact ⟨hclean.1, executeWord_same (p := .picture) h hi hdraws⟩

theorem cleanSince_of_execute {code : Int} (h : (e.execute kb code s).result = .ok e') :
    CleanSince e e' := by
  rw [result_execute] at h
  obtain ⟨w, _, h⟩ := Except.bind_eq_ok_iff.1 h
  exact cleanSince_of_executeWord h

/-! ## The other operations -/

/-- Counting the timers does not draw. -/
theorem cleanSince_of_countTimers {elapsed : Option Double} (h : e.countTimers elapsed = .ok e') :
    CleanSince e e' := by
  obtain ⟨timers, _, rfl⟩ := countTimers_eq_ok_iff.1 h
  exact .refl e

theorem cleanSince_follow (e : Engine) (flow : Flow) : CleanSince e (e.follow flow) := by
  cases flow <;> exact .refl e

/-- Loading a program does not draw. -/
theorem cleanSince_of_load {program : List UInt8} (h : (e.load program s).result = .ok e') :
    CleanSince e e' := by
  obtain ⟨memory, rfl⟩ := eq_of_load h
  exact .refl e

/-- A reset leaves the screen dirty. -/
theorem cleanSince_reset (e : Engine) : CleanSince e e.reset := cleanSince_of_dirty rfl

/-- **No tick draws unmarked**, whether it executes a word, waits for a key or rests. -/
theorem Ticks.cleanSince (h : Ticks e e') : CleanSince e e' := by
  obtain ⟨σ, kb, elapsed, s, h⟩ := h
  cases tick_eq_ok_iff.1 h with
  | rested _ => exact .refl e
  | polled _ _ hc hr =>
    obtain ⟨timers, registers, waiting, rfl⟩ := eq_of_polled hc hr
    exact .refl e
  | executed _ _ hc _ hexecute =>
    exact (cleanSince_of_countTimers hc).trans (cleanSince_of_executeWord hexecute)

end Engine

end Chip8
