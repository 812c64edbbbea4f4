import Chip8.Debugger.Basic
import Chip8.Proofs.Execution

/-!
# Proofs/Debugging — the debugger only watches

A step of the debugger looks at the word ahead, which it will report, and then ticks.  The tick
fetches once more and sees the same word, because the timers that count in between touch neither
memory nor program counter.  So the step has the result of the tick and deals with the keyboard as
the tick does (`step_eq_ok_iff`, `host_step`), and it counts and notes what was executed only behind
a tick that succeeded (`debugger_of_step`).

A sitting with the debugger is a list of calls, some of which may fail (`Sitting.call`).
`debugging_is_ticking` compares it with plain ticks: the calls other than steps drop out.
-/

namespace Chip8

variable {σ : Type} {kb : Keyboard σ} {s : σ} {e e' : Engine} {elapsed : Option Double}
  {err : Error} {fault : Fault}

namespace Engine

/-- A running engine that has nothing to fetch fails before it asks its keyboard; counting the
timers can fail even earlier. -/
theorem tick_of_fetch_eq_error (hh : e.halted = false) (hw : e.waiting = false)
    (hf : e.fetch = .error fault) :
    (e.tick kb elapsed s).result = (e.countTimers elapsed >>= fun _ => .error (.fault fault)) ∧
      (e.tick kb elapsed s).host = s := by
  rw [tick_of_running hh hw]
  cases hc : e.countTimers elapsed with
  | error err => exact ⟨rfl, rfl⟩
  | ok counted =>
    obtain ⟨timers, _, rfl⟩ := countTimers_eq_ok_iff.1 hc
    have hf' : fetch { e with timers } = .error fault := hf
    simp [Outcome.andThen, hf']

/-- Where a tick executes a word, and which one. -/
def executed (e : Engine) : Option (Word × Word) :=
  if e.halted || e.waiting then none else e.fetch.toOption.map fun word => (e.pc, word)

/-- An engine and its keyboard after a tick is tried; one that fails leaves the engine as it is. -/
def tryTick (kb : Keyboard σ) (x : Engine × σ) (elapsed : Option Double) : Engine × σ :=
  let o := x.1.tick kb elapsed x.2
  (o.result.toOption.getD x.1, o.host)

/-- The engines from which ticks are tried one after another, each with what came of its tick. -/
def attempts (kb : Keyboard σ) : List (Option Double) → Engine × σ →
    List (Engine × Except Error Engine)
  | [], _ => []
  | elapsed :: rest, x =>
    (x.1, (x.1.tick kb elapsed x.2).result) :: attempts kb rest (tryTick kb x elapsed)

/-- The engines from which ticks succeed. -/
def successes (kb : Keyboard σ) (times : List (Option Double)) (x : Engine × σ) : List Engine :=
  ((attempts kb times x).filter (·.2.isOk)).map (·.1)

theorem successes_cons_of_ok {times : List (Option Double)} {x : Engine × σ}
    (h : (x.1.tick kb elapsed x.2).result = .ok e') : successes kb (elapsed :: times) x =
      x.1 :: successes kb times (tryTick kb x elapsed) := by
  simp [successes, attempts, h, Except.isOk, Except.toBool]

theorem successes_cons_of_error {times : List (Option Double)} {x : Engine × σ}
    (h : (x.1.tick kb elapsed x.2).result = .error err) : successes kb (elapsed :: times) x =
      successes kb times (tryTick kb x elapsed) := by
  simp [successes, attempts, h, Except.isOk, Except.toBool]

end Engine

namespace Debugger

variable {d : Debugger} {fetched : Option Word}

/-! ## One step -/

/-- There is no word ahead to report for a running engine that cannot fetch. -/
theorem upcoming_eq_error_iff : upcoming e = .error fault ↔
    e.halted = false ∧ e.waiting = false ∧ e.fetch = .error fault := by
  unfold upcoming
  cases e.halted <;> cases e.waiting <;> simp [Except.map_eq_error_iff]

/-- The word that a step looks at is the one that its tick executes. -/
theorem executed_of_upcoming (h : upcoming e = .ok fetched) :
    e.executed = fetched.map fun word => (e.pc, word) := by
  unfold upcoming at h
  unfold Engine.executed
  split at h
  · next hidle =>
    cases h
    rw [if_pos hidle]
    rfl
  · next hrunning =>
    obtain ⟨word, hf, rfl⟩ := Except.map_eq_ok_iff.1 h
    rw [if_neg hrunning, hf]
    rfl

/-- The debugger after a step that succeeded. -/
def record (d : Debugger) (pc : Word) (fetched : Option Word) : Debugger where
  mode := d.mode
  steps := d.steps + 1
  history := match fetched with
    | none => d.history
    | some word => d.history.push (pc, word)

/-- A record adds the word that the tick executes, and nothing if it executes none. -/
theorem history_record (d : Debugger) (h : upcoming e = .ok fetched) :
    (d.record e.pc fetched).history.toList = d.history.toList ++ e.executed.toList := by
  rw [executed_of_upcoming h]
  cases fetched <;> simp [record]

/-- Behind a tick that succeeds the debugger has counted it and noted what it executed. -/
theorem step_of_tick_eq_ok (h : upcoming e = .ok fetched)
    (htick : (e.tick kb elapsed s).result = .ok e') :
    (step kb elapsed e (d, s)).result = .ok e' ∧
      (step kb elapsed e (d, s)).host = (d.record e.pc fetched, (e.tick kb elapsed s).host) := by
  simp only [step, h, aside, Interaction.bind_apply, Interaction.liftFault_apply,
    Except.mapError_ok, Interaction.within_apply, htick, Outcome.andThen]
  cases fetched <;> exact ⟨rfl, rfl⟩

/-- **Behind a tick that fails** the debugger is as it was; the keyboard is as the tick leaves
it. -/
theorem step_of_tick_eq_error (h : upcoming e = .ok fetched)
    (htick : (e.tick kb elapsed s).result = .error err) :
    (step kb elapsed e (d, s)).result = .error err ∧
      (step kb elapsed e (d, s)).host = (d, (e.tick kb elapsed s).host) := by
  simp [step, h, aside, htick, Outcome.andThen]

/-- A step with no word to report fails for that, and nothing has been touched. -/
theorem step_of_upcoming_eq_error (h : upcoming e = .error fault) :
    (step kb elapsed e (d, s)).result = .error (.fault fault) ∧
      (step kb elapsed e (d, s)).host = (d, s) := by
  simp [step, h, Outcome.andThen]

/-- **A step asks the keyboard what its tick asks**, and so leaves it in the same state. -/
theorem host_step (kb : Keyboard σ) (elapsed : Option Double) (d : Debugger) (e : Engine) (s : σ) :
    (step kb elapsed e (d, s)).host.2 = (e.tick kb elapsed s).host := by
  cases h : upcoming e with
  | ok fetched =>
    cases htick : (e.tick kb elapsed s).result with
    | ok after => rw [(step_of_tick_eq_ok h htick).2]
    | error err => rw [(step_of_tick_eq_error h htick).2]
  | error fault =>
    obtain ⟨hh, hw, hf⟩ := upcoming_eq_error_iff.1 h
    rw [(step_of_upcoming_eq_error h).2, (Engine.tick_of_fetch_eq_error hh hw hf).2]

theorem exists_upcoming (h : (e.tick kb elapsed s).result = .ok e') :
    ∃ fetched, upcoming e = .ok fetched := by
  cases hu : upcoming e with
  | ok fetched => exact ⟨fetched, rfl⟩
  | error fault =>
    obtain ⟨hh, hw, hf⟩ := upcoming_eq_error_iff.1 hu
    rw [(Engine.tick_of_fetch_eq_error hh hw hf).1] at h
    obtain ⟨_, _, h⟩ := Except.bind_eq_ok_iff.1 h
    cases h

/-- **A step succeeds as its tick does.** -/
theorem step_eq_ok_iff : (step kb elapsed e (d, s)).result = .ok e' ↔
    (e.tick kb elapsed s).result = .ok e' := by
  cases htick : (e.tick kb elapsed s).result with
  | ok after =>
    obtain ⟨fetched, hu⟩ := exists_upcoming htick
    rw [(step_of_tick_eq_ok hu htick).1]
  | error err =>
    cases hu : upcoming e with
    | ok fetched => rw [(step_of_tick_eq_error hu htick).1]
    | error fault => simp [(step_of_upcoming_eq_error hu).1]

/-- A step fails as its tick does, if the timers of a running engine count. -/
theorem step_eq_error_iff (hc : e.halted = false → e.waiting = false →
    ∃ counted, e.countTimers elapsed = .ok counted) :
    (step kb elapsed e (d, s)).result = .error err ↔ (e.tick kb elapsed s).result = .error err := by
  cases h : upcoming e with
  | ok fetched =>
    cases htick : (e.tick kb elapsed s).result with
    | ok after => rw [(step_of_tick_eq_ok h htick).1]
    | error err' => rw [(step_of_tick_eq_error h htick).1]
  | error fault =>
    obtain ⟨hh, hw, hf⟩ := upcoming_eq_error_iff.1 h
    obtain ⟨counted, hc⟩ := hc hh hw
    rw [(step_of_upcoming_eq_error h).1, (Engine.tick_of_fetch_eq_error hh hw hf).1, hc,
      Except.ok_bind]

/-- **The debugger counts and notes a step that succeeds**, and is the same after one that fails,
wherever it failed. -/
theorem debugger_of_step (kb : Keyboard σ) (elapsed : Option Double) (d : Debugger) (e : Engine)
    (s : σ) : match (step kb elapsed e (d, s)).result with
      | .ok _ => (step kb elapsed e (d, s)).host.1.mode = d.mode ∧
        (step kb elapsed e (d, s)).host.1.steps = d.steps + 1 ∧
        (step kb elapsed e (d, s)).host.1.history.toList =
          d.history.toList ++ e.executed.toList
      | .error _ => (step kb elapsed e (d, s)).host.1 = d := by
  cases hu : upcoming e with
  | ok fetched =>
    cases htick : (e.tick kb elapsed s).result with
    | ok after =>
      rw [(step_of_tick_eq_ok hu htick).1, (step_of_tick_eq_ok hu htick).2]
      exact ⟨rfl, rfl, history_record d hu⟩
    | error err => rw [(step_of_tick_eq_error hu htick).1, (step_of_tick_eq_error hu htick).2]
  | error fault => rw [(step_of_upcoming_eq_error hu).1, (step_of_upcoming_eq_error hu).2]

/-! ## A sitting -/

/-- What the debugger can be called for. -/
inductive Call
  | setMode (mode : DebugMode)
  | toggleStep
  | step (elapsed : Option Double)
  | printRegisters
  | printMemory (start stop : Int)
  | printProgram (program : List UInt8)

namespace Call

/-- The seconds that a call lets pass, if it makes a step. -/
def elapsed? : Call → Option (Option Double)
  | step elapsed => some elapsed
  | _ => none

/-- What a call does with an engine. -/
def perform (kb : Keyboard σ) (e : Engine) : Call → Interaction (Debugger × σ) Engine
  | setMode mode => do
    Debugger.setMode mode
    return e
  | toggleStep => do
    Debugger.toggleStep
    return e
  | step elapsed => Debugger.step kb elapsed e
  | printRegisters => do
    Interaction.say (Debugger.printRegisters e)
    return e
  | printMemory start stop => do
    let entries ← Debugger.printMemory e start stop
    Interaction.say entries
    return e
  | printProgram program => do
    Interaction.say (Debugger.printProgram program)
    return e

end Call

/-- A debugger at work: itself, the engine, and the state of the keyboard. -/
structure Sitting (σ : Type) where
  debugger : Debugger
  engine : Engine
  host : σ

namespace Sitting

/-- A sitting after a call.  One that fails returns no engine, so the engine stays; the debugger and
the keyboard are as the call left them. -/
def call (kb : Keyboard σ) (x : Sitting σ) (c : Call) : Sitting σ :=
  let o := c.perform kb x.engine (x.debugger, x.host)
  { debugger := o.host.1, engine := o.result.toOption.getD x.engine, host := o.host.2 }

variable {c : Call}

/-- A call that makes no step leaves everything but the mode as it is. -/
theorem call_of_elapsed?_eq_none (kb : Keyboard σ) (x : Sitting σ) (hc : c.elapsed? = none) :
    (x.call kb c).engine = x.engine ∧ (x.call kb c).host = x.host ∧
      (x.call kb c).debugger.steps = x.debugger.steps ∧
      (x.call kb c).debugger.history = x.debugger.history := by
  cases c with
  | step elapsed => cases hc
  | printMemory start stop =>
    simp only [call, Call.perform, Interaction.bind_apply, Interaction.liftFault_apply]
    cases Debugger.printMemory x.engine start stop <;> exact ⟨rfl, rfl, rfl, rfl⟩
  | _ => exact ⟨rfl, rfl, rfl, rfl⟩

/-- A step moves engine and keyboard as its tick does.  It is counted and noted if the tick
succeeds, and otherwise the debugger is the same. -/
theorem call_step (kb : Keyboard σ) (x : Sitting σ) (elapsed : Option Double) :
    ((x.call kb (.step elapsed)).engine, (x.call kb (.step elapsed)).host) =
        Engine.tryTick kb (x.engine, x.host) elapsed ∧
      match (x.engine.tick kb elapsed x.host).result with
      | .ok _ =>
        (x.call kb (.step elapsed)).debugger.steps = x.debugger.steps + 1 ∧
          (x.call kb (.step elapsed)).debugger.history.toList =
            x.debugger.history.toList ++ x.engine.executed.toList
      | .error _ => (x.call kb (.step elapsed)).debugger = x.debugger := by
  have hdebugger := debugger_of_step kb elapsed x.debugger x.engine x.host
  simp only [call, Call.perform, Engine.tryTick, host_step]
  cases htick : (x.engine.tick kb elapsed x.host).result with
  | ok after =>
    rw [step_eq_ok_iff.2 htick] at hdebugger ⊢
    exact ⟨rfl, hdebugger.2⟩
  | error err =>
    cases hstep : (step kb elapsed x.engine (x.debugger, x.host)).result with
    | ok after => cases htick.symm.trans (step_eq_ok_iff.1 hstep)
    | error err' =>
      rw [hstep] at hdebugger
      exact ⟨rfl, hdebugger⟩

/-- What calls come to: the ticks of the steps among them, counted and noted where they succeed. -/
theorem foldl_call (kb : Keyboard σ) (calls : List Call) (x : Sitting σ) :
    let times := calls.filterMap Call.elapsed?
    let y := calls.foldl (call kb) x
    (y.engine, y.host) = times.foldl (Engine.tryTick kb) (x.engine, x.host) ∧
    y.debugger.steps =
      x.debugger.steps + (Engine.successes kb times (x.engine, x.host)).length ∧
    y.debugger.history.toList = x.debugger.history.toList ++
      (Engine.successes kb times (x.engine, x.host)).filterMap Engine.executed := by
  induction calls generalizing x with
  | nil => simp [Engine.successes, Engine.attempts]
  | cons c calls ih =>
    obtain ⟨hmoved, hsteps, hhistory⟩ := ih (x.call kb c)
    -- a call that makes no step drops out of the ticks; a step adds one tick in front
    cases hc : c.elapsed? with
    | none =>
      obtain ⟨hengine, hhost, hsteps', hhistory'⟩ := call_of_elapsed?_eq_none kb x hc
      rw [hengine, hhost] at hmoved hsteps hhistory
      rw [hsteps'] at hsteps
      rw [hhistory'] at hhistory
      rw [List.filterMap_cons_none hc, List.foldl_cons]
      exact ⟨hmoved, hsteps, hhistory⟩
    | some elapsed =>
      obtain rfl : c = .step elapsed := by
        cases c <;> cases hc
        rfl
      obtain ⟨hticked, hcounted⟩ := call_step kb x elapsed
      rw [hticked] at hmoved hsteps hhistory
      rw [List.filterMap_cons_some hc, List.foldl_cons]
      refine ⟨hmoved, ?_⟩
      split at hcounted
      · next after htick =>
        rw [Engine.successes_cons_of_ok htick, List.length_cons, List.filterMap_cons, hsteps,
          hhistory, hcounted.1, hcounted.2]
        refine ⟨by omega, ?_⟩
        cases x.engine.executed <;> simp
      · next err htick =>
        rw [Engine.successes_cons_of_error htick, hsteps, hhistory, hcounted]
        exact ⟨rfl, rfl⟩

end Sitting

/-- **Debugging is ticking.**  After any calls, engine and keyboard are as plain ticks with the same
seconds leave them, from whatever state the keyboard was in; it may keep every question put to it
there, so the questions are the same, too.  The debugger has counted the ticks that succeeded, and
noted where they executed which word.  A single step succeeds if its tick does, with the same
engine; it fails as its tick does if the timers count; and one that fails anywhere leaves the
debugger, which it could have changed on the way, as it was. -/
theorem debugging_is_ticking (kb : Keyboard σ) (d : Debugger) (e : Engine) (s : σ) :
    (∀ calls : List Call,
      let times := calls.filterMap Call.elapsed?
      let x := calls.foldl (Sitting.call kb) ⟨d, e, s⟩
      (x.engine, x.host) = times.foldl (Engine.tryTick kb) (e, s) ∧
      x.debugger.steps = d.steps + (Engine.successes kb times (e, s)).length ∧
      x.debugger.history.toList =
        d.history.toList ++ (Engine.successes kb times (e, s)).filterMap Engine.executed) ∧
    ∀ elapsed : Option Double,
      (∀ e', (step kb elapsed e (d, s)).result = .ok e' ↔
        (e.tick kb elapsed s).result = .ok e') ∧
      ((e.halted = false → e.waiting = false → ∃ counted, e.countTimers elapsed = .ok counted) →
        ∀ err, (step kb elapsed e (d, s)).result = .error err ↔
          (e.tick kb elapsed s).result = .error err) ∧
      ∀ err, (step kb elapsed e (d, s)).result = .error err →
        (step kb elapsed e (d, s)).host = (d, (e.tick kb elapsed s).host) := by
  refine ⟨fun calls => Sitting.foldl_call kb calls ⟨d, e, s⟩, fun elapsed =>
    ⟨fun e' => step_eq_ok_iff, fun hc err => step_eq_error_iff hc, fun err hstep => ?_⟩⟩
  have hdebugger := debugger_of_step kb elapsed d e s
  rw [hstep] at hdebugger
  exact Prod.ext hdebugger (host_step kb elapsed d e s)

/-- A step with nothing to fetch fails as its tick does, and is not counted. -/
theorem debugging_is_ticking_of_end :
    let d : Debugger := { mode := .step, steps := 7, history := #[(0x200, 0x00E0)] }
    let e : Engine := { pc := 0xFFF }
    let o := step HeldKey.keyboard none e (d, { key := none })
    (∃ counted, e.countTimers none = .ok counted) ∧
      o.result = .error (.fault (.outOfBounds 0xFFF 2)) ∧ o.host = (d, { key := none }) := by
  intro d e o
  have htick : (({ pc := 0xFFF } : Engine).tick HeldKey.keyboard none { key := none }).result =
      .error (.fault (.outOfBounds 0xFFF 2)) := rfl
  have hhost : (({ pc := 0xFFF } : Engine).tick HeldKey.keyboard none { key := none }).host =
      { key := none } := rfl
  have hcounts : ∃ counted, ({ pc := 0xFFF } : Engine).countTimers none = .ok counted := ⟨_, rfl⟩
  have hsteps := (debugging_is_ticking HeldKey.keyboard d e { key := none }).2 none
  have hfails := (hsteps.2.1 (fun _ _ => hcounts) _).2 htick
  have hkept := hsteps.2.2 _ hfails
  rw [hhost] at hkept
  exact ⟨hcounts, hfails, hkept⟩

end Debugger

end Chip8
