import Chip8.Proofs.Execution
import Chip8.Proofs.Form

/-!
# Proofs/Successor — where the program counter stands after a word

An instruction has a flow, and the flow moves the program counter; only a return also sets the
counter itself, to the frame it takes, and its flow moves on from there.  The documentation knows no
flows: it speaks of forms, operands and conditions.  So flows are read in its terms first: a skip is
one of six conditions (`flowOf_eq_skip_iff`), and whatever is no departure goes on or skips
(`flowOf_eq_next_or_skip`).  Then each kind of word has its successor, and `Engine.pc_of_execute`
says which.
-/

namespace Chip8

namespace Engine

variable {σ : Type} {kb : Keyboard σ} {s : σ} {e e' : Engine} {w : Word} {i : Instruction}
  {pressed : Bool}

/-- That a word passes over the word behind it. -/
def Skips (kb : Keyboard σ) (s : σ) (e : Engine) (w : Word) : Prop :=
  w.hasForm "3xkk" ∧ e.registers[w.x] = w.nn ∨
  w.hasForm "4xkk" ∧ e.registers[w.x] ≠ w.nn ∨
  w.hasForm "5xy0" ∧ e.registers[w.x] = e.registers[w.y] ∨
  w.hasForm "9xy0" ∧ e.registers[w.x] ≠ e.registers[w.y] ∨
  w.hasForm "Ex9E" ∧ (kb.isPressed (e.registers[w.x].toNat % 16 : Nat) s).1 = .ok true ∨
  w.hasForm "ExA1" ∧ (kb.isPressed (e.registers[w.x].toNat % 16 : Nat) s).1 = .ok false

/-- The forms of the words after which execution stops or goes on elsewhere. -/
def departures : List String := ["0000", "00EE", "1nnn", "2nnn", "Bnnn"]

/-! ## Flows and forms -/

theorem skipIf_eq_skip_iff {condition : Bool} : Flow.skipIf condition = .skip ↔ condition := by
  cases condition <;> simp [Flow.skipIf]

/-- **A skip is one of the six conditions.** -/
theorem flowOf_eq_skip_iff (hi : Instruction.ofWord? w = some i)
    (hanswer : e.answer kb s i = .ok pressed) :
    e.flowOf pressed i = .skip ↔ e.Skips kb s w := by
  have hform {f : String} (hf : f ∈ forms) : w.hasForm f ↔ i.form = f :=
    Instruction.hasForm_iff_of_ofWord? hi hf
  obtain ⟨_, hoperands⟩ := Instruction.ofWord?_eq_some_iff.1 hi
  unfold Skips
  rw [hform (by decide), hform (by decide), hform (by decide), hform (by decide),
    hform (by decide), hform (by decide)]
  cases i with
  | skipIfByte x byte | skipUnlessByte x byte | skipIfSame x y | skipUnlessSame x y =>
    obtain ⟨rfl, rfl⟩ := hoperands
    simp [flowOf, skipIf_eq_skip_iff, Instruction.form]
  | skipIfPressed x | skipUnlessPressed x =>
    obtain rfl := hoperands
    have hkey : (kb.isPressed (e.registers[w.x].toNat % 16 : Nat) s).1 = .ok pressed := hanswer
    rw [hkey]
    simp [flowOf, skipIf_eq_skip_iff, Instruction.form]
  | operate op x y => cases op <;> simp [flowOf, Instruction.form, Operation.form]
  | _ => simp [flowOf, Instruction.form]

/-- What is no departure is the next word or the one behind it. -/
theorem flowOf_eq_next_or_skip (hi : Instruction.ofWord? w = some i)
    (hw : ¬ w.hasFormIn departures) :
    e.flowOf pressed i = .next ∨ e.flowOf pressed i = .skip := by
  have hskip (condition : Bool) :
      Flow.skipIf condition = .next ∨ Flow.skipIf condition = .skip := by
    cases condition <;> simp [Flow.skipIf]
  rw [Instruction.hasFormIn_eq_of_ofWord? hi (by decide)] at hw
  cases i with
  | halt | ret | jump _ | call _ | jumpFrom _ _ =>
    exact absurd (by simp [departures, Instruction.form]) hw
  | skipIfByte _ _ | skipUnlessByte _ _ | skipIfSame _ _ | skipUnlessSame _ _ | skipIfPressed _
  | skipUnlessPressed _ => exact hskip _
  | _ => exact .inl rfl

/-! ## Where flows lead -/

/-- The next word is two bytes further, around the edge if need be. -/
theorem pc_follow_next : (e.follow .next).pc.toNat = (e.pc.toNat + 2) % 0x10000 :=
  UInt16.toNat_add e.pc 2

theorem pc_follow_skip : (e.follow .skip).pc.toNat = (e.pc.toNat + 4) % 0x10000 :=
  UInt16.toNat_add e.pc 4

/-- An address, or a byte beyond one, is where a jump to it ends: it is not cut to twelve bits. -/
theorem pc_follow_jump {target : Nat} (h : target < 0x10000) :
    (e.follow (.jump target)).pc.toNat = target := by
  rw [follow, UInt16.ofInt, UInt16.toNat_ofNat']
  omega

/-! ## Words, form by form -/

/-- A word other than a return leads from where the engine was. -/
theorem pc_of_executeWord (h : (e.executeWord kb w s).result = .ok e')
    (hi : Instruction.ofWord? w = some i) (hret : i ≠ .ret) :
    ∃ pressed, e.answer kb s i = .ok pressed ∧
      e'.pc = (e.follow (e.flowOf pressed i)).pc := by
  obtain ⟨j, pressed, after, flow, hj, hanswer, hperform, rfl⟩ := executeWord_eq_ok_iff.1 h
  obtain rfl := Option.some.inj (hi.symm.trans hj)
  refine ⟨pressed, hanswer, ?_⟩
  rw [flow_of_perform hperform]
  cases e.flowOf pressed i <;> simp [follow, pc_of_perform hperform hret]

theorem pc_of_halt (h : (e.executeWord kb w s).result = .ok e') (hw : w.hasForm "0000") :
    e'.pc = e.pc := by
  have hi : Instruction.ofWord? w = some .halt := Instruction.ofWord?_eq_some_iff.2 ⟨hw, trivial⟩
  obtain ⟨_, _, hpc⟩ := pc_of_executeWord h hi (by simp)
  exact hpc

/-- The word `00EE` goes on behind the frame it takes. -/
theorem pc_of_return (h : (e.executeWord kb w s).result = .ok e') (hw : w.hasForm "00EE") :
    ∃ frame, e.machine.stack.pop = .ok (e'.machine.stack, frame) ∧
      e'.pc.toNat = (frame.toNat + 2) % 0x10000 := by
  have hret : Instruction.ofWord? w = some .ret := Instruction.ofWord?_eq_some_iff.2 ⟨hw, trivial⟩
  obtain ⟨i, pressed, after, flow, hi, _, hperform, rfl⟩ := executeWord_eq_ok_iff.1 h
  obtain rfl := Option.some.inj (hret.symm.trans hi)
  obtain ⟨stack, frame, hpop, rfl, rfl⟩ := perform_ret_eq_ok_iff.1 hperform
  exact ⟨frame, hpop, pc_follow_next⟩

/-- The words `1nnn` and `2nnn` go to their address. -/
theorem pc_of_jump (h : (e.executeWord kb w s).result = .ok e')
    (hw : w.hasFormIn ["1nnn", "2nnn"]) : e'.pc.toNat = w.nnn := by
  obtain ⟨i, hi, hflow, hret⟩ : ∃ i, Instruction.ofWord? w = some i ∧
      (∀ pressed, e.flowOf pressed i = .jump w.nnn.val) ∧ i ≠ .ret := by
    obtain ⟨f, hf, hform⟩ := List.any_eq_true.1 hw
    obtain rfl | rfl : f = "1nnn" ∨ f = "2nnn" := by simpa using hf
    · exact ⟨.jump w.nnn, Instruction.ofWord?_eq_some_iff.2 ⟨hform, rfl⟩, fun _ => rfl, by simp⟩
    · exact ⟨.call w.nnn, Instruction.ofWord?_eq_some_iff.2 ⟨hform, rfl⟩, fun _ => rfl, by simp⟩
  obtain ⟨pressed, _, hpc⟩ := pc_of_executeWord h hi hret
  rw [hpc, hflow]
  exact pc_follow_jump (by omega)

/-- The word `Bnnn` goes to its address plus a register, which is not masked. -/
theorem pc_of_jumpFrom (h : (e.executeWord kb w s).result = .ok e') (hw : w.hasForm "Bnnn") :
    e'.pc.toNat = w.nnn + e.registers[if e.config.dialect.jumpUsesVx then w.x else 0].toNat := by
  have hi : Instruction.ofWord? w = some (.jumpFrom w.x w.nnn) :=
    Instruction.ofWord?_eq_some_iff.2 ⟨hw, rfl, rfl⟩
  have hbyte := e.registers[if e.config.dialect.jumpUsesVx then w.x else 0].toNat_lt
  obtain ⟨pressed, _, hpc⟩ := pc_of_executeWord h hi (by simp)
  rw [hpc, flowOf, ← Int.natCast_add]
  exact pc_follow_jump (by omega)

/-- A word that is no departure goes on to the next one, or skips it if its condition holds. -/
theorem pc_of_no_departure (h : (e.executeWord kb w s).result = .ok e')
    (hw : ¬ w.hasFormIn departures) :
    (e.Skips kb s w → e'.pc.toNat = (e.pc.toNat + 4) % 0x10000) ∧
      (¬ e.Skips kb s w → e'.pc.toNat = (e.pc.toNat + 2) % 0x10000) := by
  obtain ⟨i, _, _, _, hi, _, _, _⟩ := executeWord_eq_ok_iff.1 h
  have hret : i ≠ .ret := by
    rintro rfl
    have hform := (Instruction.hasForm_of_ofWord? hi).1
    exact hw (Word.hasFormIn_of_mem hform (by decide))
  obtain ⟨pressed, hanswer, hpc⟩ := pc_of_executeWord h hi hret
  rw [hpc, ← flowOf_eq_skip_iff hi hanswer]
  refine ⟨fun hskip => ?_, fun hskip => ?_⟩
  · rw [hskip]
    exact pc_follow_skip
  · rw [(flowOf_eq_next_or_skip hi hw).resolve_right hskip]
    exact pc_follow_next

/-- **Where the program counter stands after a word that succeeds.**  A halt leaves it where it is.
A return goes on behind the frame that it takes, the newest one; a jump or a call goes to its
address, and a jump by a register as far beyond it as the register says.  Any other word goes on to
the next one, or, if its condition holds, to the one behind. -/
theorem pc_of_execute {code : Int} (h : (e.execute kb code s).result = .ok e') :
    ∃ w : Word, w.toNat = code ∧
      (w.hasForm "0000" → e'.pc = e.pc) ∧
      (w.hasForm "00EE" → ∃ frame, e.machine.stack.pop = .ok (e'.machine.stack, frame) ∧
        (e.machine.stack.depth ≤ 16 →
          e.machine.stack.frames = e'.machine.stack.frames ++ [frame]) ∧
        e'.pc.toNat = (frame.toNat + 2) % 0x10000) ∧
      (w.hasFormIn ["1nnn", "2nnn"] → e'.pc.toNat = w.nnn) ∧
      (w.hasForm "Bnnn" → e'.pc.toNat =
        w.nnn + e.registers[if e.config.dialect.jumpUsesVx then w.x else 0].toNat) ∧
      (¬ w.hasFormIn ["0000", "00EE", "1nnn", "2nnn", "Bnnn"] →
        (e.Skips kb s w → e'.pc.toNat = (e.pc.toNat + 4) % 0x10000) ∧
        (¬ e.Skips kb s w → e'.pc.toNat = (e.pc.toNat + 2) % 0x10000)) := by
  rw [result_execute] at h
  obtain ⟨w, hw, h⟩ := Except.bind_eq_ok_iff.1 h
  refine ⟨w, Word.parse_eq_ok_iff.1 hw, pc_of_halt h, fun hform => ?_, pc_of_jump h,
    pc_of_jumpFrom h, pc_of_no_departure h⟩
  obtain ⟨frame, hpop, hpc⟩ := pc_of_return h hform
  exact ⟨frame, hpop, fun hdepth => CallStack.frames_pop hdepth hpop, hpc⟩

/-- A return behind the last address and a skip at it come round to the first ones. -/
theorem pc_of_execute_of_last :
    let e : Engine := { machine.stack := .ofFrames [0x210, 0xFFFF], pc := 0xFFFE }
    (∃ e', (e.execute HeldKey.keyboard 0x00EE { key := none }).result = .ok e' ∧
      e.machine.stack.frames = e'.machine.stack.frames ++ [0xFFFF] ∧ e'.pc.toNat = 1) ∧
    ∃ e', (e.execute HeldKey.keyboard 0x3000 { key := none }).result = .ok e' ∧
      e'.pc.toNat = 2 := by
  intro e
  obtain ⟨e₁, h₁⟩ : ∃ e', (e.execute HeldKey.keyboard 0x00EE { key := none }).result = .ok e' :=
    ⟨_, rfl⟩
  obtain ⟨e₂, h₂⟩ : ∃ e', (e.execute HeldKey.keyboard 0x3000 { key := none }).result = .ok e' :=
    ⟨_, rfl⟩
  obtain ⟨w₁, hw₁, _, hret, _⟩ := pc_of_execute h₁
  obtain rfl : w₁ = 0x00EE := UInt16.toNat_inj.1 (Int.ofNat_inj.1 hw₁)
  obtain ⟨w₂, hw₂, _, _, _, _, hgoes⟩ := pc_of_execute h₂
  obtain rfl : w₂ = 0x3000 := UInt16.toNat_inj.1 (Int.ofNat_inj.1 hw₂)
  obtain ⟨frame, hpop, hframes, hpc⟩ := hret (by decide)
  obtain rfl : frame = 0xFFFF := (Prod.mk.inj (Except.ok.inj hpop)).2.symm
  have hpc₂ := (hgoes (by decide)).1 (.inl ⟨by decide, by decide⟩)
  have hstart : e.pc.toNat = 0xFFFE := rfl
  rw [hstart] at hpc₂
  exact ⟨⟨e₁, h₁, hframes (by decide), hpc⟩, e₂, h₂, hpc₂⟩

end Engine

end Chip8
