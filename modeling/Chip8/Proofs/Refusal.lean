import Chip8.Proofs.Execution
import Chip8.Proofs.Form

/-!
# Proofs/Refusal — which words are refused, and for what

`Engine.RefusedFor` is the documentation's list of faults: to each fault the forms that can be
refused for it, and the state of the engine in which they are.  On a keyboard that answers, the
list is exact (`Engine.refusals`): a word that is not on it succeeds.  A tick adds one more fault, a
program counter too close to the end of memory to fetch from.
-/

namespace Chip8

variable {σ : Type}

/-- That a keyboard answers about each of the sixteen keys. -/
def Keyboard.Answers (kb : Keyboard σ) (s : σ) : Prop :=
  ∀ key : Int, 0 ≤ key → key < 16 → ∃ pressed, (kb.isPressed key s).1 = .ok pressed

namespace Engine

variable {kb : Keyboard σ} {s : σ} {e : Engine} {w : Word} {i : Instruction} {fault : Fault}
  {err : Error}

/-- That a word is refused for a fault. -/
def RefusedFor (e : Engine) (w : Word) : Fault → Prop
  | .programTooLarge _ => False
  | .unknownInstruction word pc => word = w ∧ pc = e.pc ∧ ∀ f ∈ forms, ¬ w.hasForm f
  | .stackOverflow address =>
    address = e.pc.toNat ∧ w.hasForm "2nnn" ∧ e.machine.stack.depth = 16
  | .stackUnderflow => w.hasForm "00EE" ∧ e.machine.stack.depth = 0
  | .outOfBounds address length =>
    address = e.index.toNat ∧ 4096 < address + length ∧
      (w.hasForm "Dxyn" ∧ length = w.n ∨ w.hasForm "Fx33" ∧ length = 3 ∨
        w.hasFormIn ["Fx55", "Fx65"] ∧ length = w.x + 1)

/-- What a word is refused for, as it is decoded. -/
def faultOf (e : Engine) (w : Word) : Option Fault :=
  match Instruction.ofWord? w with
  | none => some (.unknownInstruction w e.pc)
  | some i => e.refusal i

theorem faultOf_of_ofWord? (hi : Instruction.ofWord? w = some i) : e.faultOf w = e.refusal i := by
  rw [faultOf, hi]

theorem exists_answer (hkb : kb.Answers s) (e : Engine) (i : Instruction) :
    ∃ pressed, e.answer kb s i = .ok pressed := by
  unfold answer
  split
  · next key hkey =>
    obtain ⟨h₀, h⟩ := keyAsked_range hkey
    exact hkb key h₀ h
  · exact ⟨false, rfl⟩

/-- On a keyboard that answers a word fails with its fault, and only with that. -/
theorem executeWord_eq_error_iff_faultOf (hkb : kb.Answers s) :
    (e.executeWord kb w s).result = .error err ↔
      ∃ fault, e.faultOf w = some fault ∧ .fault fault = err := by
  rw [executeWord_eq_error_iff]
  cases hi : Instruction.ofWord? w with
  | none => simp [faultOf, hi]
  | some i =>
    obtain ⟨pressed, hp⟩ := exists_answer hkb e i
    simp [faultOf, hi, hp]

/-! ## The list of faults is exact -/

/-- A block is refused past the end of memory, with the range it has. -/
theorem blockFault_eq_some_iff {length : Nat} : e.blockFault length = some fault ↔
    4096 < e.index.toNat + length ∧ .outOfBounds e.index.toNat length = fault := by
  have hm : memorySize = 4096 := rfl
  unfold blockFault
  split <;> simp <;> omega

/-- A block that is refused is one of the list, under a form with blocks. -/
theorem refusedFor_of_blockFault {length : Nat} (h : e.blockFault length = some fault)
    (hw : w.hasForm "Dxyn" ∧ (length : Int) = w.n ∨ w.hasForm "Fx33" ∧ (length : Int) = 3 ∨
      w.hasFormIn ["Fx55", "Fx65"] ∧ (length : Int) = w.x + 1) : e.RefusedFor w fault := by
  obtain ⟨hlong, rfl⟩ := blockFault_eq_some_iff.1 h
  exact ⟨rfl, by omega, hw⟩

/-- **What an instruction is refused for** is on the list. -/
theorem refusedFor_of_refusal (hdepth : e.machine.stack.depth ≤ stackDepth)
    (hi : Instruction.ofWord? w = some i) (h : e.refusal i = some fault) :
    e.RefusedFor w fault := by
  obtain ⟨hform, hoperands⟩ := Instruction.ofWord?_eq_some_iff.1 hi
  have hs : stackDepth = 16 := rfl
  cases i with
  | ret =>
    obtain ⟨hempty, rfl⟩ : e.machine.stack.depth = 0 ∧ .stackUnderflow = fault := by
      simpa [refusal] using h
    exact ⟨hform, hempty⟩
  | call target =>
    obtain ⟨hfull, rfl⟩ : stackDepth ≤ e.machine.stack.depth ∧
        .stackOverflow e.pc.toNat = fault := by
      simpa [refusal] using h
    exact ⟨rfl, hform, by omega⟩
  | draw x y height =>
    obtain ⟨_, _, rfl⟩ := hoperands
    exact refusedFor_of_blockFault h (.inl ⟨hform, rfl⟩)
  | storeDecimal x => exact refusedFor_of_blockFault h (.inr (.inl ⟨hform, rfl⟩))
  | storeRegisters x | loadRegisters x =>
    obtain rfl := hoperands
    have hforms : w.hasFormIn ["Fx55", "Fx65"] :=
      Word.hasFormIn_of_mem hform (by simp [Instruction.form])
    exact refusedFor_of_blockFault h (.inr (.inr ⟨hforms, rfl⟩))
  | _ => cases h

/-- **What is on the list** is what the word is refused for. -/
theorem faultOf_of_refusedFor (h : e.RefusedFor w fault) : e.faultOf w = some fault := by
  have hs : stackDepth = 16 := rfl
  cases fault with
  | programTooLarge size => exact h.elim
  | unknownInstruction word pc =>
    obtain ⟨rfl, rfl, hforms⟩ := h
    rw [faultOf, Instruction.ofWord?_eq_none_iff.2 hforms]
  | stackOverflow address =>
    obtain ⟨rfl, hform, hfull⟩ := h
    have hi : Instruction.ofWord? w = some (.call w.nnn) :=
      Instruction.ofWord?_eq_some_iff.2 ⟨hform, rfl⟩
    rw [faultOf_of_ofWord? hi, refusal, if_pos (by omega)]
  | stackUnderflow =>
    obtain ⟨hform, hempty⟩ := h
    have hi : Instruction.ofWord? w = some .ret :=
      Instruction.ofWord?_eq_some_iff.2 ⟨hform, trivial⟩
    rw [faultOf_of_ofWord? hi, refusal, if_pos hempty]
  | outOfBounds address length =>
    obtain ⟨rfl, hlong, ⟨hform, rfl⟩ | ⟨hform, rfl⟩ | ⟨hform, rfl⟩⟩ := h
    · have hi : Instruction.ofWord? w = some (.draw w.x w.y w.n) :=
        Instruction.ofWord?_eq_some_iff.2 ⟨hform, rfl, rfl, rfl⟩
      rw [faultOf_of_ofWord? hi]
      exact blockFault_eq_some_iff.2 ⟨by omega, rfl⟩
    · have hi : Instruction.ofWord? w = some (.storeDecimal w.x) :=
        Instruction.ofWord?_eq_some_iff.2 ⟨hform, rfl⟩
      rw [faultOf_of_ofWord? hi]
      exact blockFault_eq_some_iff.2 ⟨by omega, rfl⟩
    · obtain ⟨i, hi, hrefusal⟩ : ∃ i, Instruction.ofWord? w = some i ∧
          e.refusal i = e.blockFault (w.x.val + 1) := by
        obtain ⟨f, hf, hform⟩ := List.any_eq_true.1 hform
        obtain rfl | rfl : f = "Fx55" ∨ f = "Fx65" := by simpa using hf
        · exact ⟨.storeRegisters w.x, Instruction.ofWord?_eq_some_iff.2 ⟨hform, rfl⟩, rfl⟩
        · exact ⟨.loadRegisters w.x, Instruction.ofWord?_eq_some_iff.2 ⟨hform, rfl⟩, rfl⟩
      rw [faultOf_of_ofWord? hi, hrefusal]
      exact blockFault_eq_some_iff.2 ⟨by omega, rfl⟩

/-- **The list of faults is exact**: a word is decoded to a fault exactly if the list has it. -/
theorem faultOf_eq_some_iff (hdepth : e.machine.stack.depth ≤ stackDepth) :
    e.faultOf w = some fault ↔ e.RefusedFor w fault := by
  refine ⟨fun h => ?_, faultOf_of_refusedFor⟩
  cases hi : Instruction.ofWord? w with
  | none =>
    rw [faultOf, hi] at h
    obtain rfl := Option.some.inj h
    exact ⟨rfl, rfl, Instruction.ofWord?_eq_none_iff.1 hi⟩
  | some i =>
    rw [faultOf_of_ofWord? hi] at h
    exact refusedFor_of_refusal hdepth hi h

/-! ## What executions and ticks fail with -/

theorem fetch_eq_error_iff :
    e.fetch = .error fault ↔ memorySize < e.pc.toNat + 2 ∧ .outOfBounds e.pc.toNat 2 = fault :=
  Memory.word_eq_error_iff

/-- **A word fails exactly as the list says.** -/
theorem execute_eq_error_iff (hkb : kb.Answers s) (hdepth : e.machine.stack.depth ≤ stackDepth) :
    (e.execute kb w.toNat s).result = .error err ↔
      ∃ fault, err = .fault fault ∧ e.RefusedFor w fault := by
  rw [result_execute_natCast, executeWord_eq_error_iff_faultOf hkb]
  simp only [faultOf_eq_some_iff hdepth, and_comm, eq_comm]

/-- **A word that is not on the list succeeds.** -/
theorem execute_succeeds_iff (hkb : kb.Answers s) (hdepth : e.machine.stack.depth ≤ stackDepth) :
    (∃ e', (e.execute kb w.toNat s).result = .ok e') ↔ ∀ fault, ¬ e.RefusedFor w fault := by
  rw [Except.exists_ok_iff]
  constructor
  · intro h fault hfault
    exact h _ ((execute_eq_error_iff hkb hdepth).2 ⟨fault, rfl, hfault⟩)
  · intro h err herr
    obtain ⟨fault, _, hfault⟩ := (execute_eq_error_iff hkb hdepth).1 herr
    exact h fault hfault

/-- **A tick whose timers count** fails at the fetch, or as its word fails. -/
theorem tick_eq_error_iff {counted : Engine} {elapsed : Option Double} (hh : e.halted = false)
    (hw : e.waiting = false) (hc : e.countTimers elapsed = .ok counted) :
    (e.tick kb elapsed s).result = .error err ↔
      4096 < e.pc.toNat + 2 ∧ err = .fault (.outOfBounds e.pc.toNat 2) ∨
      ∃ w, e.fetch = .ok w ∧ (counted.execute kb w.toNat s).result = .error err := by
  obtain ⟨timers, _, rfl⟩ := countTimers_eq_ok_iff.1 hc
  rw [result_tick_of_running hh hw, hc, Except.ok_bind]
  have hfetch : { e with timers }.fetch = e.fetch := rfl
  have hm : memorySize = 4096 := rfl
  simp only [result_execute_natCast, hfetch, Except.bind_eq_error_iff, Except.mapError_eq_error_iff,
    Except.mapError_eq_ok_iff, fetch_eq_error_iff, hm]
  refine or_congr ⟨?_, ?_⟩ Iff.rfl
  · rintro ⟨_, ⟨hpc, rfl⟩, rfl⟩
    exact ⟨hpc, rfl⟩
  · rintro ⟨hpc, rfl⟩
    exact ⟨_, ⟨hpc, rfl⟩, rfl⟩

/-- **What executions and ticks fail with.**  A word fails for the faults of the list and for
nothing else, and succeeds if it has none.  A running engine whose timers count fails if there is
nothing to fetch, or as the word that it fetches. -/
theorem refusals (kb : Keyboard σ) (s : σ) (e : Engine) :
    (kb.Answers s → e.machine.stack.depth ≤ 16 → ∀ w : Word,
      (∀ err, (e.execute kb w.toNat s).result = .error err ↔
        ∃ fault, err = .fault fault ∧ e.RefusedFor w fault) ∧
      ((∃ e', (e.execute kb w.toNat s).result = .ok e') ↔ ∀ fault, ¬ e.RefusedFor w fault)) ∧
    (e.halted = false → e.waiting = false →
      ∀ elapsed counted, e.countTimers elapsed = .ok counted → ∀ err,
        (e.tick kb elapsed s).result = .error err ↔
          4096 < e.pc.toNat + 2 ∧ err = .fault (.outOfBounds e.pc.toNat 2) ∨
          ∃ w, e.fetch = .ok w ∧ (counted.execute kb w.toNat s).result = .error err) :=
  ⟨fun hkb hdepth _ =>
    ⟨fun _ => execute_eq_error_iff hkb hdepth, execute_succeeds_iff hkb hdepth⟩,
    fun hh hw _ _ hc _ => tick_eq_error_iff hh hw hc⟩

/-- A full stack and an index near the end of memory: a call is refused, and so is a block of three
cells, but a return is not; at the very end nothing can be fetched. -/
theorem refusals_of_full_stack :
    let e : Engine := { machine.stack := .ofFrames (.replicate 16 0x300), index := 0xFFE }
    (e.execute HeldKey.keyboard 0x2345 { key := none }).result =
        .error (.fault (.stackOverflow 0x200)) ∧
      (e.execute HeldKey.keyboard 0xF233 { key := none }).result =
        .error (.fault (.outOfBounds 0xFFE 3)) ∧
      (∃ e', (e.execute HeldKey.keyboard 0x00EE { key := none }).result = .ok e') ∧
      (({ e with pc := 0xFFF } : Engine).tick HeldKey.keyboard none { key := none }).result =
        .error (.fault (.outOfBounds 0xFFF 2)) := by
  intro e
  have hwords := (refusals HeldKey.keyboard { key := none } e).1 (fun _ _ _ => ⟨_, rfl⟩) (by decide)
  have hticks := (refusals HeldKey.keyboard { key := none } { e with pc := 0xFFF }).2 rfl rfl none _
    rfl
  refine ⟨?_, ?_, ?_, ?_⟩
  · exact ((hwords 0x2345).1 _).2 ⟨_, rfl, rfl, by decide, rfl⟩
  · exact ((hwords 0xF233).1 _).2 ⟨_, rfl, rfl, by decide, .inr (.inl ⟨by decide, rfl⟩)⟩
  · refine (hwords 0x00EE).2.2 fun fault => ?_
    cases fault with
    | programTooLarge => exact id
    | unknownInstruction => exact fun h => h.2.2 "00EE" (by decide) (by decide)
    | stackOverflow => exact fun h => absurd h.2.1 (by decide)
    | stackUnderflow => exact fun h => absurd h.2 (by decide)
    | outOfBounds =>
      rintro ⟨_, _, ⟨h, _⟩ | ⟨h, _⟩ | ⟨h, _⟩⟩
      all_goals exact absurd h (by decide)
  · exact (hticks _).2 (.inl ⟨by decide, rfl⟩)

end Engine

end Chip8
