import Chip8.Proofs.Form
import Chip8.Proofs.Writes

/-!
# Proofs/Effects — the documented effects of a word are all of its effects

`Engine.writes` lists what an instruction writes to.  The documentation goes the other way: it
names, for each component of the engine, the forms that may change it (`Location.ChangedBy`).  That
the list stays within the documentation is a matter of each instruction; the theorem,
`Engine.execute_effects`, is about words and whole executions.
-/

namespace Chip8

/-- That a word may change a component of an engine. -/
def Location.ChangedBy (e : Engine) (w : Word) : Location → Prop
  | cell a =>
    w.hasForm "Fx33" ∧ e.index.toNat ≤ a ∧ a < e.index.toNat + 3 ∨
    w.hasForm "Fx55" ∧ e.index.toNat ≤ a ∧ a < e.index.toNat + w.x + 1
  | register k =>
    k = w.x ∧ w.hasFormIn ["6xkk", "7xkk", "8xy0", "8xy1", "8xy2", "8xy3", "8xy4", "8xy5", "8xy6",
      "8xy7", "8xyE", "Cxkk", "Fx07"] ∨
    k = 15 ∧ w.hasFormIn ["8xy4", "8xy5", "8xy6", "8xy7", "8xyE", "Dxyn"] ∨
    k ≤ w.x ∧ w.hasForm "Fx65"
  | stack => w.hasFormIn ["2nnn", "00EE"]
  | picture | dirty => w.hasFormIn ["00E0", "Dxyn"]
  | index =>
    w.hasFormIn ["Annn", "Fx1E", "Fx29"] ∨
    e.config.dialect.loadStoreIncrementsI ∧ w.hasFormIn ["Fx55", "Fx65"]
  | delay => w.hasForm "Fx15"
  | sound => w.hasForm "Fx18"
  | random => w.hasForm "Cxkk"
  | waiting | keyRegister => w.hasForm "Fx0A"
  | halted => w.hasForm "0000"
  | accumulator | config => False

namespace Engine

variable {σ : Type} {kb : Keyboard σ} {s : σ} {e e' : Engine} {w : Word} {i : Instruction}
  {pressed : Bool} {flow : Flow} {p : Location} {x : Register}

theorem mem_movedIndex : p ∈ e.movedIndex ↔ p = .index ∧ e.config.dialect.loadStoreIncrementsI := by
  unfold movedIndex
  split <;> simp [*]

section

attribute [local simp] writes Instruction.form Operation.form

/-- What an instruction writes to is what its word is documented to change. -/
theorem changedBy_of_mem_writes (hi : Instruction.ofWord? w = some i) (hp : p ∈ e.writes i) :
    p.ChangedBy e w := by
  obtain ⟨hform, hoperands⟩ := Instruction.ofWord?_eq_some_iff.1 hi
  cases i with
  | halt =>
    obtain rfl : p = .halted := by simpa using hp
    exact hform
  | clear =>
    obtain rfl | rfl : p = .picture ∨ p = .dirty := by simpa using hp
    all_goals exact Word.hasFormIn_of_mem hform (by simp)
  | ret | call _ =>
    obtain rfl : p = .stack := by simpa using hp
    exact Word.hasFormIn_of_mem hform (by simp)
  | setByte x _ | addByte x _ =>
    obtain ⟨rfl, _⟩ := hoperands
    obtain rfl : p = .register w.x := by simpa using hp
    exact .inl ⟨rfl, Word.hasFormIn_of_mem hform (by simp)⟩
  | readDelay x =>
    obtain rfl := hoperands
    obtain rfl : p = .register w.x := by simpa using hp
    exact .inl ⟨rfl, Word.hasFormIn_of_mem hform (by simp)⟩
  | operate op x y =>
    obtain ⟨rfl, _⟩ := hoperands
    obtain rfl | ⟨hop, rfl⟩ :
        p = .register w.x ∨ op.setsFlag ∧ p = .register flagRegister := by simpa using hp
    · exact .inl ⟨rfl, Word.hasFormIn_of_mem hform (by cases op <;> simp)⟩
    · refine .inr (.inl ⟨rfl, Word.hasFormIn_of_mem hform ?_⟩)
      cases op with
      | copy | or | and | xor => cases hop
      | _ => simp
  | setIndex _ | addIndex _ | findGlyph _ =>
    obtain rfl : p = .index := by simpa using hp
    exact .inl (Word.hasFormIn_of_mem hform (by simp))
  | random x _ =>
    obtain ⟨rfl, _⟩ := hoperands
    obtain rfl | rfl : p = .register w.x ∨ p = .random := by simpa using hp
    · exact .inl ⟨rfl, Word.hasFormIn_of_mem hform (by simp)⟩
    · exact hform
  | draw _ _ _ =>
    obtain rfl | rfl | rfl : p = .register flagRegister ∨ p = .picture ∨ p = .dirty := by
      simpa using hp
    · exact .inr (.inl ⟨rfl, Word.hasFormIn_of_mem hform (by simp)⟩)
    all_goals exact Word.hasFormIn_of_mem hform (by simp)
  | waitForKey _ =>
    obtain rfl | rfl : p = .waiting ∨ p = .keyRegister := by simpa using hp
    all_goals exact hform
  | setDelay _ =>
    obtain rfl : p = .delay := by simpa using hp
    exact hform
  | setSound _ =>
    obtain rfl : p = .sound := by simpa using hp
    exact hform
  | storeDecimal _ =>
    obtain ⟨a, rfl, ha⟩ := Location.mem_block.1 hp
    exact .inl ⟨hform, ha⟩
  | storeRegisters x =>
    obtain rfl := hoperands
    obtain hp | hp := List.mem_append.1 hp
    · obtain ⟨a, rfl, ha⟩ := Location.mem_block.1 hp
      exact .inr ⟨hform, ha⟩
    · obtain ⟨rfl, hd⟩ := mem_movedIndex.1 hp
      exact .inr ⟨hd, Word.hasFormIn_of_mem hform (by simp)⟩
  | loadRegisters x =>
    obtain rfl := hoperands
    obtain hp | hp := List.mem_append.1 hp
    · obtain ⟨k, hk, rfl⟩ : ∃ k, k ≤ w.x ∧ Location.register k = p := by simpa using hp
      exact .inr (.inr ⟨hk, hform⟩)
    · obtain ⟨rfl, hd⟩ := mem_movedIndex.1 hp
      exact .inr ⟨hd, Word.hasFormIn_of_mem hform (by simp)⟩
  | _ => simp at hp

end

/-- An instruction leaves the screen dirty if it was, or if it draws. -/
theorem dirty_of_perform (h : e.perform pressed i = .ok (e', flow)) :
    e'.machine.dirty = (e.machine.dirty || ["00E0", "Dxyn"].contains i.form) := by
  cases i with
  | clear =>
    cases h
    simp [Machine.clear, Instruction.form]
  | draw x y height =>
    obtain ⟨_, rfl, _⟩ := perform_draw_eq_ok_iff.1 h
    simp [drawSprite, setRegister, Machine.draw, Instruction.form]
  | operate op x y =>
    have hsame : Location.dirty.Same e e' :=
      perform_same h (by cases op <;> simp [writes, Operation.setsFlag])
    refine Eq.trans hsame ?_
    cases op <;> simp [Instruction.form, Operation.form]
  | _ =>
    have hsame : Location.dirty.Same e e' := perform_same h (by simp [writes, movedIndex])
    refine Eq.trans hsame ?_
    simp [Instruction.form]

/-- **The documented effects of a word are all of its effects**: a component that a word does not
change according to its form is the same after it.  The mark for drawing is set by the two forms
that draw, and cleared by none. -/
theorem execute_effects {code : Int} (h : (e.execute kb code s).result = .ok e') :
    ∃ w : Word, w.toNat = code ∧ (∀ p : Location, p.Same e e' ∨ p.ChangedBy e w) ∧
      e'.machine.dirty = (e.machine.dirty || w.hasFormIn ["00E0", "Dxyn"]) := by
  rw [result_execute] at h
  obtain ⟨w, hw, h⟩ := Except.bind_eq_ok_iff.1 h
  obtain ⟨i, pressed, after, flow, hi, _, hperform, hfollow⟩ := executeWord_eq_ok_iff.1 h
  refine ⟨w, Word.parse_eq_ok_iff.1 hw, fun p => ?_, ?_⟩
  · by_cases hp : p ∈ e.writes i
    · exact .inr (changedBy_of_mem_writes hi hp)
    · exact .inl (executeWord_same h hi hp)
  · have hform : w.hasFormIn ["00E0", "Dxyn"] = ["00E0", "Dxyn"].contains i.form :=
      Instruction.hasFormIn_eq_of_ofWord? hi (by simp [forms])
    have hflow : Location.dirty.Same after e' := by
      rw [← hfollow]
      exact same_follow (by simp)
    rw [hform, ← dirty_of_perform hperform]
    exact hflow

/-- The word that clears, on a clean screen: the picture and the mark are all that it may change. -/
theorem execute_effects_of_clear : ∃ e' : Engine,
    (({ machine.dirty := false } : Engine).execute HeldKey.keyboard 0x00E0 { key := none }).result =
      .ok e' ∧
    ∃ w : Word, w.toNat = (0x00E0 : Int) ∧
      (∀ p : Location, p.Same { machine.dirty := false } e' ∨
        p.ChangedBy { machine.dirty := false } w) ∧
      e'.machine.dirty = (false || w.hasFormIn ["00E0", "Dxyn"]) := by
  have h : (({ machine.dirty := false } : Engine).execute HeldKey.keyboard 0x00E0
      { key := none }).result = .ok { machine := ({} : Machine).clear, pc := 0x202 } := rfl
  exact ⟨_, h, execute_effects h⟩

end Engine

end Chip8
