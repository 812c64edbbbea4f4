import Chip8.Engine.Run
import Chip8.Proofs.Perform

/-!
# Proofs/Execution — what comes of executing a word, and of a tick

Equations give the result of each operation of a running engine as a sequence of results, with
neither host nor log in it.  Two facts read them backwards, and nothing later unfolds an operation
again:

* `executeWord_eq_ok_iff` — a word that succeeds reads as an instruction, which is performed.
* `tick_eq_ok_iff` — a tick that succeeds is one of three kinds (`Ticked`).
-/

namespace Chip8

/-- An integer is a word if it is the value of one. -/
theorem Word.parse_eq_ok_iff {code : Int} {w : Word} :
    Word.parse code = .ok w ↔ w.toNat = code := by
  constructor
  · intro h
    unfold Word.parse ofInt? at h
    split at h
    · next v hv =>
      split at hv
      · next hcode =>
        cases h
        cases hv
        rw [UInt16.toNat_ofNat']
        omega
      · cases hv
    · cases h
  · rintro rfl
    rw [Word.parse, Word.ofInt?_toNat]

namespace Engine

variable {σ : Type} {kb : Keyboard σ} {s : σ} {e e' : Engine} {w : Word} {i : Instruction}
  {elapsed : Option Double}

/-! ## Executing a word -/

/-- What a keyboard answers about the key that an instruction asks for; without such a key nothing
is asked. -/
def answer (kb : Keyboard σ) (s : σ) (e : Engine) (i : Instruction) : Except Error Bool :=
  match e.keyAsked i with
  | some key => (kb.isPressed key s).1
  | none => .ok false

/-- An instruction asks its key, does its work, and the engine follows. -/
theorem result_executeInstruction (kb : Keyboard σ) (s : σ) (e : Engine) (i : Instruction) :
    (e.executeInstruction kb i s).result = e.answer kb s i >>= fun pressed =>
      ((e.perform pressed i).mapError Error.fault).map fun (after, flow) => after.follow flow := by
  unfold executeInstruction answer
  cases e.keyAsked i <;> simp [proceed] <;> rfl

/-- An instruction asks for one of the sixteen keys or for none. -/
theorem keyAsked_range {key : Int} (h : e.keyAsked i = some key) : 0 ≤ key ∧ key < 16 := by
  cases i with
  | skipIfPressed x | skipUnlessPressed x =>
    obtain rfl := Option.some.inj h
    omega
  | _ => cases h

/-- Of the keyboard, only the answer to its instruction matters to a word. -/
theorem result_executeWord_congr {τ : Type} {kb' : Keyboard τ} {s' : τ}
    (h : ∀ i, Instruction.ofWord? w = some i → e.answer kb s i = e.answer kb' s' i) :
    (e.executeWord kb w s).result = (e.executeWord kb' w s').result := by
  rw [executeWord, executeWord]
  cases hi : Instruction.ofWord? w with
  | none => rfl
  | some i => simp only [result_executeInstruction, h i hi]

/-- **A word that is executed** reads as an instruction, which is performed with the answer of the
keyboard; then the program counter moves. -/
theorem executeWord_eq_ok_iff : (e.executeWord kb w s).result = .ok e' ↔
    ∃ i pressed after flow, Instruction.ofWord? w = some i ∧ e.answer kb s i = .ok pressed ∧
      e.perform pressed i = .ok (after, flow) ∧ after.follow flow = e' := by
  rw [executeWord]
  cases hi : Instruction.ofWord? w with
  | none => simp
  | some i =>
    simp only [result_executeInstruction, Except.bind_eq_ok_iff, Except.map_eq_ok_iff,
      Except.mapError_eq_ok_iff, Prod.exists, Option.some.injEq, exists_and_left, exists_eq_left']

/-- **A word that is not executed** is no instruction, or the keyboard has no answer, or the
instruction is refused. -/
theorem executeWord_eq_error_iff {err : Error} : (e.executeWord kb w s).result = .error err ↔
    (Instruction.ofWord? w = none ∧ .fault (.unknownInstruction w e.pc) = err) ∨
    ∃ i, Instruction.ofWord? w = some i ∧ (e.answer kb s i = .error err ∨
      ∃ pressed fault, e.answer kb s i = .ok pressed ∧ e.refusal i = some fault ∧
        .fault fault = err) := by
  rw [executeWord]
  cases hi : Instruction.ofWord? w with
  | none => simp
  | some i =>
    simp only [result_executeInstruction, Except.bind_eq_error_iff, Except.map_eq_error_iff,
      Except.mapError_eq_error_iff, perform_eq_error_iff, exists_and_left, exists_eq_left',
      Option.some.injEq, reduceCtorEq, false_and, false_or]

/-- A word given as an integer is executed as it is. -/
theorem result_execute (kb : Keyboard σ) (e : Engine) (code : Int) (s : σ) :
    (e.execute kb code s).result =
      Word.parse code >>= fun w => (e.executeWord kb w s).result := by
  rw [execute, Interaction.result_bind, Interaction.lift_apply]

theorem result_execute_natCast (kb : Keyboard σ) (e : Engine) (w : Word) (s : σ) :
    (e.execute kb w.toNat s).result = (e.executeWord kb w s).result := by
  rw [result_execute, Word.parse_eq_ok_iff.2 rfl, Except.ok_bind]

/-! ## Ticks -/

/-- The timers of a waiting engine count only if it is set up so. -/
def countWhileWaiting (e : Engine) (elapsed : Option Double) : Except Error Engine :=
  if e.config.timersRunWhileWaiting then e.countTimers elapsed else .ok e

/-- A waiting engine after it asked for a key: it waits on, or it takes the key. -/
def resume (e : Engine) : Option Int → Except Error Engine
  | none => .ok e
  | some key => (Registers.setAt e.registers e.keyRegister (UInt8.ofInt key)).map fun registers =>
    { e with registers, waiting := false }

theorem countTimers_eq_ok_iff : e.countTimers elapsed = .ok e' ↔
    ∃ timers, e.timers.advance e.config.timerMode e.config.timerFrequency elapsed = .ok timers ∧
      { e with timers } = e' := Except.map_eq_ok_iff

/-- A wait goes on without a key; with one the register takes it and the wait is over. -/
theorem resume_eq_ok_iff {key : Option Int} : e.resume key = .ok e' ↔
    key = none ∧ e = e' ∨ ∃ k registers, key = some k ∧
      e.registers.setAt e.keyRegister (UInt8.ofInt k) = .ok registers ∧
      { e with registers, waiting := false } = e' := by
  cases key with
  | none => simp [resume]
  | some k => simp [resume, Except.map_eq_ok_iff]

/-- A wait goes on or ends with what the keyboard gives. -/
theorem result_resolveWait (kb : Keyboard σ) (s : σ) (e : Engine) :
    (e.resolveWait kb s).result = e.resume (kb.getKey s).1 := by
  have hpoll : (kb.poll s).result = .ok (kb.getKey s).1 := rfl
  rw [resolveWait, Interaction.result_bind, hpoll]
  cases (kb.getKey s).1 with
  | none => rfl
  | some key => simp [resume, Interaction.result_map]

theorem tick_of_halted (hh : e.halted = true) : e.tick kb elapsed = pure e := by
  rw [tick, if_pos hh]

theorem result_tick_of_halted (hh : e.halted = true) : (e.tick kb elapsed s).result = .ok e := by
  simp [tick, hh]

/-- A waiting engine counts its timers, if it counts them then, and asks for a key. -/
theorem tick_of_waiting (hh : e.halted = false) (hw : e.waiting = true) : e.tick kb elapsed =
    (liftM (e.countWhileWaiting elapsed) : Interaction σ Engine) >>= fun counted =>
      counted.resolveWait kb := by
  rw [tick, if_neg (by simp [hh]), if_pos hw, countWhileWaiting]
  cases e.config.timersRunWhileWaiting <;> rfl

/-- The same for what comes of it: the keyboard is asked once. -/
theorem result_tick_of_waiting (hh : e.halted = false) (hw : e.waiting = true) :
    (e.tick kb elapsed s).result =
      e.countWhileWaiting elapsed >>= fun counted => counted.resume (kb.getKey s).1 := by
  rw [tick, if_neg (by simp [hh]), if_pos hw]
  cases ht : e.config.timersRunWhileWaiting with
  | true => simp [countWhileWaiting, ht, result_resolveWait]
  | false => simp [countWhileWaiting, ht, result_resolveWait]

/-- A running engine counts its timers, fetches a word and executes it. -/
theorem tick_of_running (hh : e.halted = false) (hw : e.waiting = false) :
    e.tick kb elapsed = (liftM (e.countTimers elapsed) : Interaction σ Engine) >>= fun counted =>
      (liftM counted.fetch : Interaction σ Word) >>= fun w => counted.executeWord kb w := by
  rw [tick, if_neg (by simp [hh]), if_neg (by simp [hw])]

/-- The same for what comes of it: the fetch is that of the engine that counted. -/
theorem result_tick_of_running (hh : e.halted = false) (hw : e.waiting = false) :
    (e.tick kb elapsed s).result = e.countTimers elapsed >>= fun counted =>
      counted.fetch.mapError Error.fault >>= fun w => (counted.executeWord kb w s).result := by
  simp only [tick_of_running hh hw, Interaction.result_bind, Interaction.lift_apply,
    Interaction.liftFault_apply]

/-- What a tick that succeeds did, by the three kinds of ticks. -/
inductive Ticked (kb : Keyboard σ) (elapsed : Option Double) (s : σ) (e : Engine) : Engine → Prop
  | rested (hh : e.halted = true) : Ticked kb elapsed s e e
  | polled {counted e' : Engine} (hh : e.halted = false) (hw : e.waiting = true)
      (hc : e.countWhileWaiting elapsed = .ok counted)
      (hr : counted.resume (kb.getKey s).1 = .ok e') : Ticked kb elapsed s e e'
  | executed {counted e' : Engine} {w : Word} (hh : e.halted = false) (hw : e.waiting = false)
      (hc : e.countTimers elapsed = .ok counted) (hf : counted.fetch = .ok w)
      (he : (counted.executeWord kb w s).result = .ok e') : Ticked kb elapsed s e e'

/-- **A tick succeeds** exactly with what it did. -/
theorem tick_eq_ok_iff : (e.tick kb elapsed s).result = .ok e' ↔ Ticked kb elapsed s e e' := by
  constructor
  · intro h
    cases hh : e.halted with
    | true =>
      obtain rfl := Except.ok.inj ((result_tick_of_halted hh).symm.trans h)
      exact .rested hh
    | false =>
      cases hw : e.waiting with
      | true =>
        rw [result_tick_of_waiting hh hw] at h
        obtain ⟨counted, hc, hr⟩ := Except.bind_eq_ok_iff.1 h
        exact .polled hh hw hc hr
      | false =>
        rw [result_tick_of_running hh hw] at h
        obtain ⟨counted, hc, h⟩ := Except.bind_eq_ok_iff.1 h
        obtain ⟨w, hf, he⟩ := Except.bind_eq_ok_iff.1 h
        exact .executed hh hw hc (Except.mapError_eq_ok_iff.1 hf) he
  · intro h
    cases h with
    | rested hh => exact result_tick_of_halted hh
    | polled hh hw hc hr =>
      rw [result_tick_of_waiting hh hw]
      exact Except.bind_eq_ok_iff.2 ⟨_, hc, hr⟩
    | executed hh hw hc hf he =>
      rw [result_tick_of_running hh hw]
      exact Except.bind_eq_ok_iff.2 ⟨_, hc, Except.bind_eq_ok_iff.2
        ⟨_, Except.mapError_eq_ok_iff.2 hf, he⟩⟩

end Engine

end Chip8
