import Chip8.Proofs.Execution

/-!
# Proofs/Questions — what a tick asks its keyboard

A tick that succeeds puts at most one question to its keyboard, and `Engine.question` tells which
before the tick is made: a waiting engine asks for the key that ends the wait, a running one for the
key of its instruction, if it has one.  `host_tick` says that the keyboard is left as this one
question leaves it.

To count questions, a keyboard can be made to keep a record of them (`Keyboard.recorded`).  The
engine cannot tell: the result of a tick is the same (`result_tick_recorded`), and the record grows
by the question of the engine (`host_tick_recorded`).
-/

namespace Chip8

variable {σ : Type}

/-- A question put to a keyboard. -/
inductive Question
  | isPressed (key : Int)
  | getKey
  deriving DecidableEq, Repr

namespace Keyboard

/-- The state of a keyboard after a question, if there is one. -/
def after (kb : Keyboard σ) (s : σ) : Option Question → σ
  | some (.isPressed key) => (kb.isPressed key s).2
  | some .getKey => (kb.getKey s).2
  | none => s

/-- A keyboard together with a record of all questions put to it, oldest first. -/
def recorded (kb : Keyboard σ) : Keyboard (σ × List Question) where
  isPressed key x := (kb.isPressed key x.1).map id (·, x.2 ++ [.isPressed key])
  getKey x := (kb.getKey x.1).map id (·, x.2 ++ [.getKey])

/-- A record grows by the question. -/
theorem after_recorded (kb : Keyboard σ) (s : σ) (asked : List Question) (q : Option Question) :
    kb.recorded.after (s, asked) q = (kb.after s q, asked ++ q.toList) := by
  cases q with
  | none => exact congrArg (Prod.mk s) (List.append_nil asked).symm
  | some q => cases q <;> rfl

end Keyboard

namespace Interaction

variable {α β : Type} {x : Interaction σ α} {f : α → Interaction σ β}

/-- That an operation does not deal with its host. -/
def Quiet (x : Interaction σ α) : Prop := ∀ s, (x s).host = s

theorem quiet_pure (a : α) : (pure a : Interaction σ α).Quiet := fun _ => rfl

theorem quiet_say (entries : List Entry) : (say entries : Interaction σ Unit).Quiet := fun _ => rfl

theorem quiet_lift (x : Except Error α) : (liftM x : Interaction σ α).Quiet := fun _ => rfl

theorem quiet_liftFault (x : Except Fault α) : (liftM x : Interaction σ α).Quiet := fun _ => rfl

/-- Behind something that asks nothing the host is as the first part left it. -/
theorem host_bind_of_quiet (hf : ∀ a, (f a).Quiet) (s : σ) :
    ((x >>= f) s).host = (x s).host := by
  rw [bind_apply]
  rcases x s with ⟨_ | a, host, log⟩
  · rfl
  · exact hf a host

theorem Quiet.bind (hx : x.Quiet) (hf : ∀ a, (f a).Quiet) : (x >>= f).Quiet :=
  fun s => (host_bind_of_quiet hf s).trans (hx s)

end Interaction

namespace Engine

variable {kb : Keyboard σ} {s : σ} {e e' : Engine} {elapsed : Option Double}

/-- The question that the next tick puts to its keyboard, if it puts any. -/
def question (e : Engine) : Option Question :=
  if e.halted then none
  else if e.waiting then some .getKey
  else ((e.fetch.toOption.bind Instruction.ofWord?).bind e.keyAsked).map .isPressed

/-- An engine asks for the key that ends a wait if it waits and has not halted. -/
theorem question_eq_getKey_iff :
    e.question = some .getKey ↔ e.halted = false ∧ e.waiting = true := by
  unfold question
  cases e.halted with
  | true => simp
  | false =>
    cases e.waiting with
    | true => simp
    | false => simp [-Option.map_bind]

/-- It asks for that key once a tick, or not at all. -/
theorem count_getKey_question (e : Engine) : e.question.toList.count .getKey =
    if e.halted = false ∧ e.waiting = true then 1 else 0 := by
  split
  · next h =>
    rw [question_eq_getKey_iff.2 h]
    rfl
  · next h =>
    refine List.count_eq_zero_of_not_mem fun hmem => h ?_
    exact question_eq_getKey_iff.1 (Option.mem_toList.1 hmem)

/-! ## The keyboard after a tick -/

theorem quiet_proceed (e : Engine) (flow : Flow) : Interaction.Quiet (σ := σ) (e.proceed flow) :=
  (Interaction.quiet_say _).bind fun _ => Interaction.quiet_pure _

/-- An instruction asks for its key, if it has one. -/
theorem host_executeInstruction (kb : Keyboard σ) (s : σ) (e : Engine) (i : Instruction) :
    (e.executeInstruction kb i s).host = kb.after s ((e.keyAsked i).map .isPressed) := by
  have hrest (pressed : Bool) : Interaction.Quiet (σ := σ)
      (liftM (e.perform pressed i) >>= fun x => x.1.proceed x.2) :=
    (Interaction.quiet_liftFault _).bind fun x => quiet_proceed x.1 x.2
  rw [executeInstruction]
  cases e.keyAsked i with
  | none => exact Interaction.host_bind_of_quiet hrest s
  | some key => exact Interaction.host_bind_of_quiet hrest s

/-- A word asks what its instruction asks. -/
theorem host_executeWord (kb : Keyboard σ) (s : σ) (e : Engine) (w : Word) :
    (e.executeWord kb w s).host =
      kb.after s (((Instruction.ofWord? w).bind e.keyAsked).map .isPressed) := by
  rw [executeWord]
  cases Instruction.ofWord? w with
  | none => rfl
  | some i => exact host_executeInstruction kb s e i

theorem host_resolveWait (kb : Keyboard σ) (s : σ) (e : Engine) :
    (e.resolveWait kb s).host = (kb.getKey s).2 := by
  rw [resolveWait, Interaction.host_bind_of_quiet]
  · rfl
  · intro key
    cases key with
    | none => exact Interaction.quiet_pure e
    | some k =>
      exact (Interaction.quiet_say _).bind fun _ =>
        (Interaction.quiet_lift _).bind fun _ => Interaction.quiet_pure _

/-- Counting the timers changes neither the word ahead nor the key that it asks for. -/
theorem question_of_counted (hh : e.halted = false) (hw : e.waiting = false) {counted : Engine}
    {w : Word} (hc : e.countTimers elapsed = .ok counted) (hf : counted.fetch = .ok w) :
    e.question = ((Instruction.ofWord? w).bind counted.keyAsked).map .isPressed := by
  obtain ⟨timers, _, rfl⟩ := countTimers_eq_ok_iff.1 hc
  have hfetch : e.fetch = .ok w := hf
  have hkey : keyAsked { e with timers } = e.keyAsked := by
    funext i
    cases i <;> rfl
  rw [question, if_neg (by simp [hh]), if_neg (by simp [hw]), hfetch, hkey]
  rfl

/-- A tick that waits asks once, also if the answer makes it fail. -/
theorem host_tick_of_waiting (hh : e.halted = false) (hw : e.waiting = true) {counted : Engine}
    (hc : e.countWhileWaiting elapsed = .ok counted) :
    (e.tick kb elapsed s).host = (kb.getKey s).2 := by
  rw [tick_of_waiting hh hw, ← host_resolveWait kb s counted]
  simp only [Interaction.bind_apply, Interaction.lift_apply, Outcome.andThen, hc]

/-- A tick that executes a word asks what the word asks. -/
theorem host_tick_of_running (hh : e.halted = false) (hw : e.waiting = false) {counted : Engine}
    {w : Word} (hc : e.countTimers elapsed = .ok counted) (hf : counted.fetch = .ok w) :
    (e.tick kb elapsed s).host = (counted.executeWord kb w s).host := by
  rw [tick_of_running hh hw]
  simp only [Interaction.bind_apply, Interaction.lift_apply, Interaction.liftFault_apply,
    Outcome.andThen, hc, hf, Except.mapError_ok]

/-- **A tick that succeeds puts one question to its keyboard** or none, as `question` tells. -/
theorem host_tick (h : (e.tick kb elapsed s).result = .ok e') :
    (e.tick kb elapsed s).host = kb.after s e.question := by
  cases tick_eq_ok_iff.1 h with
  | rested hh =>
    rw [tick_of_halted hh, question, if_pos hh]
    rfl
  | polled hh hw hc _ =>
    rw [host_tick_of_waiting hh hw hc, question_eq_getKey_iff.2 ⟨hh, hw⟩]
    rfl
  | executed hh hw hc hf _ =>
    rw [host_tick_of_running hh hw hc hf, host_executeWord, question_of_counted hh hw hc hf]

/-! ## Keyboards with a record -/

/-- A keyboard that keeps a record answers as it would without. -/
theorem answer_recorded (kb : Keyboard σ) (s : σ) (asked : List Question) (e : Engine)
    (i : Instruction) : e.answer kb.recorded (s, asked) i = e.answer kb s i := by
  unfold answer
  cases e.keyAsked i <;> rfl

/-- **The engine cannot tell** whether its keyboard keeps a record. -/
theorem result_tick_recorded (kb : Keyboard σ) (elapsed : Option Double) (e : Engine) (s : σ)
    (asked : List Question) :
    (e.tick kb.recorded elapsed (s, asked)).result = (e.tick kb elapsed s).result := by
  cases hh : e.halted with
  | true => rw [result_tick_of_halted hh, result_tick_of_halted hh]
  | false =>
    cases hw : e.waiting with
    | true =>
      rw [result_tick_of_waiting hh hw, result_tick_of_waiting hh hw]
      rfl
    | false =>
      have hword (e : Engine) (w : Word) :
          (e.executeWord kb.recorded w (s, asked)).result = (e.executeWord kb w s).result :=
        result_executeWord_congr fun i _ => answer_recorded kb s asked e i
      rw [result_tick_of_running hh hw, result_tick_of_running hh hw]
      simp only [hword]

/-- **The record of a tick that succeeds** grows by the question of the engine. -/
theorem host_tick_recorded {asked : List Question}
    (h : (e.tick kb.recorded elapsed (s, asked)).result = .ok e') :
    (e.tick kb.recorded elapsed (s, asked)).host =
      ((e.tick kb elapsed s).host, asked ++ e.question.toList) := by
  have hplain := (result_tick_recorded kb elapsed e s asked).symm.trans h
  rw [host_tick h, Keyboard.after_recorded, host_tick hplain]

end Engine

end Chip8
