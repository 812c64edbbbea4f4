import Chip8.Proofs.Effects
import Chip8.Proofs.Reachable
import Chip8.Proofs.Turns

/-!
# Proofs/Countdown — what is left of a timer after a run of ticks

Where the timers count at ticks, a tick takes one step off both, before it executes its word; a
halted engine takes none off, and a waiting one only if it is set up so (`Engine.counts`).  One word
for each timer sets it.  A tick that does not execute it leaves of the timer what the count leaves
(`left_of_tick`), and a tick that executes it leaves what it sets (`left_of_sets`).  Over a run
(`Engine.Run`), the steps add up: subtraction of natural numbers stops at zero, as the timers do.

The two timers differ in the word that sets them and in nothing else, so every lemma is about a
`Timer`.
-/

namespace Chip8

/-- What is left after some steps: at least zero, and within eight bits. -/
theorem Timers.toNat_countDown (timer : UInt8) (steps : Int) :
    ((countDown timer steps).toNat : Int) = max (timer.toNat - steps) 0 % 256 := by
  rw [countDown, UInt8.toNat_ofNat']
  omega

/-- One of the two timers. -/
inductive Timer
  | delay
  | sound
  deriving DecidableEq, Repr

namespace Timer

/-- What is left of a timer. -/
def left (e : Engine) : Timer → UInt8
  | delay => e.timers.delay
  | sound => e.timers.sound

/-- The form of the word that sets a timer. -/
def setter : Timer → String
  | delay => "Fx15"
  | sound => "Fx18"

/-- The instruction that sets a timer from a register. -/
def set (x : Register) : Timer → Instruction
  | delay => .setDelay x
  | sound => .setSound x

/-- Where a timer is. -/
def location : Timer → Location
  | delay => .delay
  | sound => .sound

variable {t : Timer} {e e' : Engine} {w : Word} {i : Instruction}

theorem left_eq_of_same (h : t.location.Same e e') : t.left e' = t.left e := by
  cases t <;> exact h

/-- The word that sets a timer is decoded to the instruction that sets it. -/
theorem ofWord?_of_hasForm_setter (hw : w.hasForm t.setter) :
    Instruction.ofWord? w = some (t.set w.x) := by
  cases t <;> exact Instruction.ofWord?_eq_some_iff.2 ⟨hw, rfl⟩

theorem setter_mem_forms (t : Timer) : t.setter ∈ forms := by
  cases t <;> simp [setter, forms]

/-- Of all instructions only its setter writes a timer. -/
theorem location_mem_writes : t.location ∈ e.writes i ↔ i.form = t.setter := by
  cases t <;> cases i with
  | operate op x y =>
    cases op <;> simp [Engine.writes, Operation.setsFlag, Instruction.form, Operation.form,
      location, setter]
  | _ => simp [Engine.writes, Engine.movedIndex, Instruction.form, location, setter]

end Timer

namespace Engine

variable {t : Timer} {e e' counted : Engine} {starts : List Engine} {w : Word} {i : Instruction}
  {elapsed : Option Double}

/-! ## Runs of ticks -/

/-- That a tick of an engine sets a timer. -/
def Sets (e : Engine) (t : Timer) : Prop := ∃ w, e.Executes w ∧ w.hasForm t.setter

/-- A tick that fetches another word sets no timer. -/
theorem not_sets_of_fetch (hf : e.fetch = .ok w) (hw : ¬ w.hasForm t.setter) : ¬ e.Sets t := by
  rintro ⟨w', hx, hw'⟩
  obtain rfl := Except.ok.inj (hf.symm.trans hx.fetches)
  exact hw hw'

/-- Whether a tick of an engine counts its timers. -/
def counts (e : Engine) : Bool := !e.halted && (!e.waiting || e.config.timersRunWhileWaiting)

/-- That ticks lead from an engine to another; with the engines that they start from. -/
inductive Run : Engine → List Engine → Engine → Prop
  | nil {e : Engine} : Run e [] e
  | cons {e e' e'' : Engine} {starts : List Engine} (tick : Ticks e e') (rest : Run e' starts e'') :
    Run e (e :: starts) e''

theorem config_of_ticks (h : Ticks e e') : e'.config = e.config := by
  obtain ⟨σ, kb, elapsed, s, h⟩ := h
  cases tick_eq_ok_iff.1 h with
  | rested _ => rfl
  | polled _ _ hc hr =>
    obtain ⟨timers, registers, waiting, rfl⟩ := eq_of_polled hc hr
    rfl
  | executed _ _ hc _ hexecute =>
    obtain ⟨timers, _, rfl⟩ := countTimers_eq_ok_iff.1 hc
    obtain ⟨i, _, _, _, hi, _, _, _⟩ := executeWord_eq_ok_iff.1 hexecute
    have hsame : Location.config.Same { e with timers } e' :=
      executeWord_same hexecute hi (changedBy_of_mem_writes hi)
    exact hsame

/-- A run falls apart at each of its ticks. -/
theorem Run.split {before after : List Engine} {x : Engine} (h : Run e (before ++ x :: after) e') :
    Run e before x ∧ ∃ x', Ticks x x' ∧ Run x' after e' := by
  induction before generalizing e with
  | nil =>
    cases h with
    | cons tick rest => exact ⟨.nil, _, tick, rest⟩
  | cons y before ih =>
    cases h with
    | cons tick rest =>
      obtain ⟨hbefore, hafter⟩ := ih rest
      exact ⟨.cons tick hbefore, hafter⟩

theorem Run.config_eq (h : Run e starts e') : e'.config = e.config := by
  induction h with
  | nil => rfl
  | cons tick _ ih => rw [ih, config_of_ticks tick]

/-! ## One tick -/

/-- In the mode that counts ticks the time of a tick says nothing. -/
theorem countTimers_of_perTick (hmode : e.config.timerMode = .perTick) (elapsed : Option Double) :
    e.countTimers elapsed = .ok { e with timers := e.timers.lower 1 } := by
  rw [countTimers, hmode]
  rfl

/-- In the mode that counts ticks a count takes one off each timer that is not zero. -/
theorem left_of_countTimers (hmode : e.config.timerMode = .perTick)
    (h : e.countTimers elapsed = .ok counted) : (t.left counted).toNat = (t.left e).toNat - 1 := by
  rw [countTimers_of_perTick hmode] at h
  cases h
  have hleft : t.left { e with timers := e.timers.lower 1 } = Timers.countDown (t.left e) 1 := by
    cases t <;> rfl
  have hcount := Timers.toNat_countDown (t.left e) 1
  have hbyte := (t.left e).toNat_lt
  rw [hleft]
  omega

/-- A tick that executes a word performs its instruction after the timers have counted. -/
theorem perform_of_ticks (h : Ticks e e') (hx : e.Executes w)
    (hi : Instruction.ofWord? w = some i) :
    ∃ elapsed counted pressed after flow, e.countTimers elapsed = .ok counted ∧
      counted.perform pressed i = .ok (after, flow) ∧ after.follow flow = e' := by
  obtain ⟨σ, kb, elapsed, s, h⟩ := h
  cases tick_eq_ok_iff.1 h with
  | rested hh => cases hh.symm.trans hx.not_halted
  | polled _ hw _ _ => cases hw.symm.trans hx.not_waiting
  | executed _ _ hc hf hexecute =>
    obtain ⟨timers, _, rfl⟩ := countTimers_eq_ok_iff.1 hc
    obtain rfl := Except.ok.inj (hx.fetches.symm.trans hf)
    obtain ⟨j, pressed, after, flow, hj, _, hperform, hfollow⟩ := executeWord_eq_ok_iff.1 hexecute
    obtain rfl := Option.some.inj (hi.symm.trans hj)
    exact ⟨elapsed, _, pressed, after, flow, hc, hperform, hfollow⟩

/-- **A tick that does not set a timer** leaves of it what the count leaves, if it counts. -/
theorem left_of_tick {σ : Type} {kb : Keyboard σ} {s : σ}
    (h : (e.tick kb elapsed s).result = .ok e') (hset : ¬ e.Sets t) :
    ∃ counted, (if e.counts then e.countTimers elapsed else .ok e) = .ok counted ∧
      t.left e' = t.left counted := by
  cases tick_eq_ok_iff.1 h with
  | rested hh =>
    refine ⟨e, ?_, rfl⟩
    rw [counts, hh]
    rfl
  | @polled counted _ hh hw hc hr =>
    have hcounts : e.counts = e.config.timersRunWhileWaiting := by simp [counts, hh, hw]
    refine ⟨counted, ?_, ?_⟩
    · rw [hcounts]
      exact hc
    · obtain ⟨_, rfl⟩ | ⟨_, _, _, _, rfl⟩ := resume_eq_ok_iff.1 hr
      · rfl
      · cases t <;> rfl
  | @executed counted _ w hh hw hc hf hexecute =>
    have hcounts : e.counts = true := by simp [counts, hh, hw]
    have hfetch : e.fetch = .ok w := by
      obtain ⟨timers, _, rfl⟩ := countTimers_eq_ok_iff.1 hc
      exact hf
    obtain ⟨i, _, _, _, hi, _, _, _⟩ := executeWord_eq_ok_iff.1 hexecute
    have hsame : t.location.Same counted e' := executeWord_same hexecute hi fun hmem =>
      hset ⟨w, ⟨hh, hw, hfetch⟩, (Instruction.hasForm_iff_of_ofWord? hi t.setter_mem_forms).2
        (Timer.location_mem_writes.1 hmem)⟩
    refine ⟨counted, ?_, Timer.left_eq_of_same hsame⟩
    rw [hcounts]
    exact hc

/-- A tick that sets no timer takes one off it, if the tick counts at all. -/
theorem left_of_ticks (hmode : e.config.timerMode = .perTick) (h : Ticks e e')
    (hset : ¬ e.Sets t) : (t.left e').toNat = (t.left e).toNat - if e.counts then 1 else 0 := by
  obtain ⟨σ, kb, elapsed, s, h⟩ := h
  obtain ⟨counted, hcount, hleft⟩ := left_of_tick h hset
  rw [hleft]
  split at hcount
  · next hcounts =>
    rw [if_pos hcounts]
    exact left_of_countTimers hmode hcount
  · next hcounts =>
    cases hcount
    rw [if_neg hcounts, Nat.sub_zero]

/-- **A tick that sets a timer** leaves what is in the register. -/
theorem left_of_sets (h : Ticks e e') (hx : e.Executes w) (hw : w.hasForm t.setter) :
    t.left e' = e.registers[w.x] := by
  obtain ⟨elapsed, counted, pressed, after, flow, hc, hperform, rfl⟩ :=
    perform_of_ticks h hx (Timer.ofWord?_of_hasForm_setter hw)
  obtain ⟨timers, _, rfl⟩ := countTimers_eq_ok_iff.1 hc
  cases t <;> cases hperform <;> rfl

/-- **A tick that reads the delay timer** finds what the count of the same tick leaves. -/
theorem register_of_reads (hmode : e.config.timerMode = .perTick) (h : Ticks e e')
    (hx : e.Executes w) (hw : w.hasForm "Fx07") :
    e'.registers[w.x] = e'.timers.delay ∧ e'.timers.delay.toNat = e.timers.delay.toNat - 1 := by
  have hi : Instruction.ofWord? w = some (.readDelay w.x) :=
    Instruction.ofWord?_eq_some_iff.2 ⟨hw, rfl⟩
  obtain ⟨elapsed, counted, pressed, after, flow, hc, hperform, rfl⟩ := perform_of_ticks h hx hi
  have hleft : counted.timers.delay.toNat = e.timers.delay.toNat - 1 :=
    left_of_countTimers (t := .delay) hmode hc
  cases hperform
  refine ⟨?_, hleft⟩
  exact (Registers.getElem_put counted.registers w.x w.x counted.timers.delay).trans (if_pos rfl)

/-! ## Runs -/

/-- **A run that does not set a timer** takes a step off it for each tick that counts. -/
theorem Run.left_eq (hmode : e.config.timerMode = .perTick) (h : Run e starts e')
    (hset : ∀ x ∈ starts, ¬ x.Sets t) :
    (t.left e').toNat = (t.left e).toNat - starts.countP counts := by
  induction h with
  | nil => rfl
  | @cons e next e' starts tick rest ih =>
    have hmode' : next.config.timerMode = .perTick := by rw [config_of_ticks tick, hmode]
    have hfirst := left_of_ticks hmode tick (hset e List.mem_cons_self)
    have hrest := ih hmode' fun x hx => hset x (List.mem_cons_of_mem e hx)
    rw [hrest, hfirst, List.countP_cons, Nat.sub_sub, Nat.add_comm]

/-- **What is left of the timers after a run.**  A timer that no tick of the run sets has lost one
step for each tick that counts, down to zero at most.  A tick that sets it leaves what is in the
register, and from there the rest of the run takes its steps off.  A tick that reads the delay timer
reads it after its own count. -/
theorem timers_of_run (hmode : e.config.timerMode = .perTick) (hrun : Run e starts e') :
    (∀ t : Timer, (∀ x ∈ starts, ¬ x.Sets t) →
      (t.left e').toNat = (t.left e).toNat - starts.countP counts) ∧
    ∀ before x after w, starts = before ++ x :: after → x.Executes w →
      ∃ x', Ticks x x' ∧ Run x' after e' ∧
        (∀ t : Timer, w.hasForm t.setter → t.left x' = x.registers[w.x] ∧
          ((∀ y ∈ after, ¬ y.Sets t) →
            (t.left e').toNat = x.registers[w.x].toNat - after.countP counts)) ∧
        (w.hasForm "Fx07" → x'.registers[w.x].toNat = x.timers.delay.toNat - 1) := by
  refine ⟨fun t => hrun.left_eq hmode, ?_⟩
  rintro before x after w rfl hx
  obtain ⟨hbefore, x', htick, hafter⟩ := hrun.split
  have hmodex : x.config.timerMode = .perTick := by rw [hbefore.config_eq, hmode]
  have hmodex' : x'.config.timerMode = .perTick := by rw [config_of_ticks htick, hmodex]
  refine ⟨x', htick, hafter, fun t hw => ?_, fun hw => ?_⟩
  · have hleft := left_of_sets htick hx hw
    refine ⟨hleft, fun hset => ?_⟩
    rw [← hleft]
    exact hafter.left_eq hmodex' hset
  · obtain ⟨hregister, hleft⟩ := register_of_reads hmodex htick hx hw
    rw [hregister, hleft]

/-- A run of two ticks that sets the sound timer and reads the delay timer. -/
theorem timers_of_run_of_program : ∃ (e x e' x' : Engine), e.config.timerMode = .perTick ∧
    Run e [e, x] e' ∧ (e.timers.delay, e.registers[(1 : Register)]) = (5, 9) ∧
    [e, x].countP counts = 2 ∧ e'.timers.delay.toNat = 5 - 2 ∧ e'.timers.sound.toNat = 9 - 1 ∧
    Run x' [] e' ∧ x'.registers[(0 : Register)].toNat = x.timers.delay.toNat - 1 := by
  let program : List UInt8 := [0xF1, 0x18, 0xF0, 0x07]
  obtain ⟨m, h₀, h₂⟩ : ∃ m : Memory, m.word (0x200 : Nat) = .ok 0xF118 ∧
      m.word (0x202 : Nat) = .ok 0xF007 :=
    ⟨Memory.initial.overlay 0x200 program, Memory.word_overlay (k := 0) (by decide) (by decide),
      Memory.word_overlay (k := 2) (by decide) (by decide)⟩
  let start : Engine := {
    machine.memory := m, registers := Registers.put (.replicate 16 0) 1 9
    timers := { delay := 5, accumulator := 0 } }
  let middle : Engine := { start with
    timers := { delay := 4, sound := 9, accumulator := 0 }, pc := 0x202 }
  let stop : Engine := { middle.setRegister 0 3 with
    timers := { delay := 3, sound := 8, accumulator := 0 }, pc := 0x204 }
  have hfirst : Ticks start middle := ticks_of_fetch rfl rfl rfl h₀ rfl
  have hsecond : Ticks middle stop := ticks_of_fetch rfl rfl rfl h₂ rfl
  have hrun : Run start [start, middle] stop := .cons hfirst (.cons hsecond .nil)
  obtain ⟨hcount, hword⟩ := timers_of_run (e := start) rfl hrun
  have hdelay := hcount .delay (List.forall_mem_cons.2 ⟨not_sets_of_fetch h₀ (by decide),
    List.forall_mem_singleton.2 (not_sets_of_fetch h₂ (by decide))⟩)
  obtain ⟨_, _, _, hset, _⟩ := hword [] start [middle] 0xF118 rfl ⟨rfl, rfl, h₀⟩
  have hsound := (hset .sound (by decide)).2
    (List.forall_mem_singleton.2 (not_sets_of_fetch h₂ (by decide)))
  obtain ⟨x', _, hrest, _, hread⟩ := hword [start] middle [] 0xF007 rfl ⟨rfl, rfl, h₂⟩
  exact ⟨start, middle, stop, x', rfl, hrun, rfl, rfl, hdelay, hsound, hrest, hread (by decide)⟩

end Engine

end Chip8
