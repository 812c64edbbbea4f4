import Chip8.Proofs.Form
import Chip8.Proofs.Writes

/-!
# Proofs/Control — how words move the program counter and the call stack

A word calls, returns, or leaves the call stack alone (`Transfer`).  This is all that the theorems
on runs need to know of the thirty-five instructions: `transfer_of_executeWord` looks at each of
them once.  A tick that executes no word leaves program counter and call stack as they are
(`eq_of_polled`).
-/

namespace Chip8

namespace Engine

variable {σ : Type} {kb : Keyboard σ} {s : σ} {e e' : Engine} {w : Word} {i : Instruction}
  {elapsed : Option Double}

/-- What a word does to program counter and call stack. -/
inductive Transfer (e e' : Engine) : Prop
  /-- The address of the call is pushed. -/
  | call (push : e.machine.stack.push e.pc.toNat = .ok e'.machine.stack)
      (pc_le : e'.pc.toNat ≤ 0xFFF)
  /-- A frame is taken, and execution goes on behind the call. -/
  | ret {frame : Word} (pop : e.machine.stack.pop = .ok (e'.machine.stack, frame))
      (pc_eq : e'.pc = frame + 2)
  /-- Execution goes on where it is, one word or two words further, or jumps. -/
  | stay (stack_eq : e'.machine.stack = e.machine.stack)
      (pc_cases : e'.pc = e.pc ∨ e'.pc = e.pc + 2 ∨ e'.pc = e.pc + 4 ∨ e'.pc.toNat ≤ 0xFFF + 0xFF)

theorem stack_follow (e : Engine) (flow : Flow) :
    (e.follow flow).machine.stack = e.machine.stack := by
  cases flow <;> rfl

/-- A jump to an address, or to a byte beyond one, ends there. -/
theorem toNat_ofInt {target : Int} (h₀ : 0 ≤ target) (h : target ≤ 0xFFF + 0xFF) :
    ((UInt16.ofInt target).toNat : Int) = target := by
  rw [UInt16.ofInt, UInt16.toNat_ofNat']
  omega

/-- An instruction stays where it is, goes one or two words further, or jumps at most a byte beyond
an address. -/
theorem pc_follow_flowOf {after : Engine} (hpc : after.pc = e.pc) (pressed : Bool)
    (i : Instruction) :
    let pc := (after.follow (e.flowOf pressed i)).pc
    pc = e.pc ∨ pc = e.pc + 2 ∨ pc = e.pc + 4 ∨ pc.toNat ≤ 0xFFF + 0xFF := by
  rw [← hpc]
  cases hflow : e.flowOf pressed i with
  | halt => exact .inl rfl
  | next => exact .inr (.inl rfl)
  | skip => exact .inr (.inr (.inl rfl))
  | jump target =>
    obtain ⟨h₀, h⟩ := flowOf_eq_jump hflow
    have htarget := toNat_ofInt h₀ h
    exact .inr (.inr (.inr (by simp only [follow]; omega)))

/-- **A word that is executed transfers control** in one of the three ways. -/
theorem transfer_of_executeWord (h : (e.executeWord kb w s).result = .ok e') : Transfer e e' := by
  obtain ⟨i, pressed, after, flow, _, _, hperform, rfl⟩ := executeWord_eq_ok_iff.1 h
  by_cases hstack : .stack ∈ e.writes i
  · obtain rfl | ⟨target, rfl⟩ := stack_mem_writes.1 hstack
    · obtain ⟨stack, frame, hpop, rfl, rfl⟩ := perform_ret_eq_ok_iff.1 hperform
      exact .ret hpop rfl
    · obtain ⟨stack, hpush, rfl, rfl⟩ := perform_call_eq_ok_iff.1 hperform
      have hpc : ((UInt16.ofInt target.val).toNat : Int) = target.val :=
        toNat_ofInt (by omega) (by omega)
      exact .call hpush (by simp only [follow]; omega)
  · have hret : i ≠ .ret := fun hi => hstack (stack_mem_writes.2 (.inl hi))
    refine .stay ?_ ?_
    · rw [stack_follow]
      exact perform_same hperform hstack
    · rw [flow_of_perform hperform]
      exact pc_follow_flowOf (pc_of_perform hperform hret) pressed i

/-- A call pushes the address it was made from. -/
theorem push_of_executeWord (h : (e.executeWord kb w s).result = .ok e') (hw : w.hasForm "2nnn") :
    e.machine.stack.push e.pc.toNat = .ok e'.machine.stack := by
  have hcall : Instruction.ofWord? w = some (.call w.nnn) :=
    Instruction.ofWord?_eq_some_iff.2 ⟨hw, rfl⟩
  obtain ⟨i, pressed, after, flow, hi, _, hperform, rfl⟩ := executeWord_eq_ok_iff.1 h
  obtain rfl := Option.some.inj (hcall.symm.trans hi)
  obtain ⟨stack, hpush, rfl, rfl⟩ := perform_call_eq_ok_iff.1 hperform
  exact hpush

/-- A tick of a waiting engine changes timers, registers and the wait. -/
theorem eq_of_polled {counted : Engine} {key : Option Int}
    (hc : e.countWhileWaiting elapsed = .ok counted) (hr : counted.resume key = .ok e') :
    ∃ timers registers waiting, e' = { e with timers, registers, waiting } := by
  obtain ⟨timers, rfl⟩ : ∃ timers, counted = { e with timers } := by
    unfold countWhileWaiting at hc
    split at hc
    · obtain ⟨timers, _, rfl⟩ := countTimers_eq_ok_iff.1 hc
      exact ⟨timers, rfl⟩
    · cases hc
      exact ⟨e.timers, rfl⟩
  obtain ⟨_, rfl⟩ | ⟨_, registers, _, _, rfl⟩ := resume_eq_ok_iff.1 hr
  · exact ⟨timers, e.registers, e.waiting, rfl⟩
  · exact ⟨timers, registers, false, rfl⟩

end Engine

end Chip8
