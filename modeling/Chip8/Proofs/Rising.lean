import Chip8.Proofs.Countdown
import Chip8.Proofs.Doubles

/-!
# Proofs/Rising — when a timer gets larger

A count takes a whole number of steps off both timers (`Engine.steps`): one at a tick, or those that
a clock has gathered.  What is left is at least zero, but nothing keeps it within eight bits, and a
clock that is set back gathers negative steps.  So a count can raise a timer, and `Engine.Raises`
says when: the steps are negative, and the timer does not come round to where it was or below.

Time that runs forward raises nothing: sums and products of doubles keep their sign, so the steps
are not negative (`steps_nonneg`).  A tick that does not set a timer leaves of it what its count
leaves, if it counts at all; so `timers_rise_iff` is about ticks as well.
-/

namespace Chip8

namespace Timers

/-- A timer rises by the steps of a clock that was set back, unless they lead it round. -/
theorem lt_countDown_iff {timer : UInt8} {steps : Int} : timer < countDown timer steps ↔
    steps < 0 ∧ 0 < -steps % 256 ∧ timer.toNat + -steps % 256 < 256 := by
  have hleft := toNat_countDown timer steps
  have htimer := timer.toNat_lt
  rw [UInt8.lt_iff_toNat_lt]
  omega

/-- What a clock has gathered after some seconds. -/
def gathered {α : Type} [Seconds α] (t : Timers α) (frequency : α) (elapsed : Option α) : α :=
  let seconds := match elapsed with
    | some s => if Seconds.isZero s then Seconds.zero else s
    | none => Seconds.zero
  t.accumulator + seconds * frequency

end Timers

namespace Engine

variable {σ : Type} {kb : Keyboard σ} {s : σ} {t : Timer} {e e' counted : Engine}
  {elapsed : Option Double} {n : Int}

/-- The steps of a count. -/
def steps (e : Engine) (elapsed : Option Double) : Except Error Int :=
  match e.config.timerMode with
  | .perTick => .ok 1
  | .clock => Seconds.wholePart (e.timers.gathered e.config.timerFrequency elapsed)

/-- That a count raises a timer. -/
def Raises (e : Engine) (elapsed : Option Double) (t : Timer) : Prop :=
  ∃ n, e.steps elapsed = .ok n ∧
    n < 0 ∧ 0 < -n % 256 ∧ (t.left e).toNat + -n % 256 < 256

/-! ## One count -/

/-- A count that succeeds takes its steps off both timers. -/
theorem steps_of_countTimers (h : e.countTimers elapsed = .ok counted) :
    ∃ n, e.steps elapsed = .ok n ∧ ∀ t : Timer, t.left counted = Timers.countDown (t.left e) n := by
  obtain ⟨timers, hadvance, rfl⟩ := countTimers_eq_ok_iff.1 h
  unfold steps
  cases hmode : e.config.timerMode with
  | perTick =>
    rw [hmode] at hadvance
    cases hadvance
    refine ⟨1, rfl, fun t => ?_⟩
    cases t <;> rfl
  | clock =>
    rw [hmode] at hadvance
    obtain ⟨n, hn, hlower⟩ := Except.bind_eq_ok_iff.1 hadvance
    cases hlower
    refine ⟨n, hn, fun t => ?_⟩
    cases t <;> rfl

theorem countTimers_of_steps (h : e.steps elapsed = .ok n) :
    ∃ counted, e.countTimers elapsed = .ok counted := by
  unfold steps at h
  cases hmode : e.config.timerMode with
  | perTick => exact ⟨_, countTimers_of_perTick hmode elapsed⟩
  | clock =>
    rw [hmode] at h
    let gathered := e.timers.gathered e.config.timerFrequency elapsed
    let timers := { e.timers.lower n with accumulator := gathered - Seconds.ofInt n }
    have hadvance : e.timers.advance .clock e.config.timerFrequency elapsed = .ok timers :=
      Except.bind_eq_ok_iff.2 ⟨n, h, rfl⟩
    exact ⟨{ e with timers }, countTimers_eq_ok_iff.2 ⟨timers, by rw [hmode, hadvance], rfl⟩⟩

/-- **A count raises a timer** if its steps are negative and the byte does not pass 255. -/
theorem lt_left_iff_raises (h : e.countTimers elapsed = .ok counted) :
    t.left e < t.left counted ↔ e.Raises elapsed t := by
  obtain ⟨n, hn, hleft⟩ := steps_of_countTimers h
  rw [hleft t, Timers.lt_countDown_iff]
  constructor
  · intro hrises
    exact ⟨n, hn, hrises⟩
  · rintro ⟨n', hn', hrises⟩
    obtain rfl := Except.ok.inj (hn.symm.trans hn')
    exact hrises

/-- A tick that does not set a timer raises it exactly if it counts and its count does. -/
theorem lt_left_iff_of_tick (h : (e.tick kb elapsed s).result = .ok e') (hset : ¬ e.Sets t) :
    t.left e < t.left e' ↔ e.counts = true ∧ e.Raises elapsed t := by
  obtain ⟨counted, hcount, hleft⟩ := left_of_tick h hset
  rw [hleft]
  cases hcounts : e.counts with
  | true =>
    rw [hcounts] at hcount
    exact (lt_left_iff_raises hcount).trans (iff_and_self.2 fun _ => rfl)
  | false =>
    rw [hcounts] at hcount
    cases hcount
    exact iff_of_false (UInt8.lt_irrefl _) fun hraises => nomatch hraises.1

/-! ## Time that runs forward -/

theorem isBelowZero_gathered {timers : Timers Double} {frequency : Double}
    (haccumulator : timers.accumulator.isBelowZero = false)
    (hfrequency : frequency.isBelowZero = false)
    (helapsed : ∀ x ∈ elapsed, x.isBelowZero = false) :
    (timers.gathered frequency elapsed).isBelowZero = false := by
  have hzero : (Seconds.zero : Double).isBelowZero = false := by decide +kernel
  refine Double.isBelowZero_add haccumulator (Double.isBelowZero_mul ?_ hfrequency)
  cases elapsed with
  | none => exact hzero
  | some x =>
    dsimp only
    split
    · exact hzero
    · exact helapsed x rfl

/-- **Time that runs forward takes steps off** and adds none. -/
theorem steps_nonneg (haccumulator : e.timers.accumulator.isBelowZero = false)
    (hfrequency : e.config.timerFrequency.isBelowZero = false)
    (helapsed : ∀ x ∈ elapsed, x.isBelowZero = false) (h : e.steps elapsed = .ok n) : 0 ≤ n := by
  unfold steps at h
  split at h
  · cases h
    decide
  · exact Double.wholePart_nonneg (isBelowZero_gathered haccumulator hfrequency helapsed) h

/-! ## Counts and ticks -/

/-- **When a timer gets larger.**  A count leaves what it takes the steps off, at least zero and
within eight bits; it raises a timer exactly if the steps are negative and do not lead it round, and
so does a tick that counts and does not set the timer.  Where the timers count at ticks nothing is
raised, nor by time that runs forward. -/
theorem timers_rise_iff (e : Engine) (elapsed : Option Double) :
    ((∃ counted, e.countTimers elapsed = .ok counted) ↔ ∃ n, e.steps elapsed = .ok n) ∧
    (∀ counted, e.countTimers elapsed = .ok counted → ∃ n, e.steps elapsed = .ok n ∧
      ∀ t : Timer, ((t.left counted).toNat : Int) = max ((t.left e).toNat - n) 0 % 256 ∧
        (t.left e < t.left counted ↔ e.Raises elapsed t)) ∧
    (∀ {σ : Type} (kb : Keyboard σ) (s : σ) (e' : Engine),
      (e.tick kb elapsed s).result = .ok e' → ∀ t : Timer, ¬ e.Sets t →
        (t.left e < t.left e' ↔ e.counts = true ∧ e.Raises elapsed t)) ∧
    (e.config.timerMode = .perTick → ∀ t : Timer, ¬ e.Raises elapsed t) ∧
    (e.timers.accumulator.isBelowZero = false → e.config.timerFrequency.isBelowZero = false →
      (∀ x ∈ elapsed, x.isBelowZero = false) → ∀ t : Timer, ¬ e.Raises elapsed t) := by
  refine ⟨⟨?_, ?_⟩, fun counted h => ?_, fun kb s e' h t hset => lt_left_iff_of_tick h hset,
    fun hmode t => ?_, fun haccumulator hfrequency helapsed t => ?_⟩
  · rintro ⟨counted, h⟩
    obtain ⟨n, hn, _⟩ := steps_of_countTimers h
    exact ⟨n, hn⟩
  · rintro ⟨n, hn⟩
    exact countTimers_of_steps hn
  · obtain ⟨n, hn, hleft⟩ := steps_of_countTimers h
    refine ⟨n, hn, fun t => ⟨?_, lt_left_iff_raises h⟩⟩
    rw [hleft t, Timers.toNat_countDown]
  · rintro ⟨n, hn, hnegative, _⟩
    rw [steps, hmode] at hn
    cases hn
    contradiction
  · rintro ⟨n, hn, hnegative, _⟩
    have hnonneg := steps_nonneg haccumulator hfrequency helapsed hn
    omega

/-- A clock that is set back by half a second raises the timers by thirty. -/
theorem timers_rise_of_clock_set_back :
    let e : Engine := {
      timers := { delay := 9, sound := 4, accumulator := 0 }, config := { timerMode := .clock } }
    let back : Double := ⟨0xBFE0000000000000⟩
    back.value = .finite true Binary64.hiddenBit (-53) ∧
    ∃ counted, e.countTimers (some back) = .ok counted ∧
      counted.timers.delay = 39 ∧ counted.timers.sound = 34 := by
  intro e back
  have hleft : (e.countTimers (some back)).toOption.map
      (fun counted => (counted.timers.delay, counted.timers.sound)) = some (39, 34) := by
    decide +kernel
  obtain ⟨counted, hcount, hboth⟩ := Option.map_eq_some_iff.1 hleft
  obtain ⟨hdelay, hsound⟩ := Prod.mk.inj hboth
  exact ⟨by decide +kernel, counted, Except.eq_ok_of_toOption hcount, hdelay, hsound⟩

/-- The same in a tick that halts; a clock that goes on by half a second raises nothing. -/
theorem timers_rise_iff_of_half_a_second :
    let e : Engine := {
      timers := { delay := 9, sound := 4, accumulator := 0 }, config := { timerMode := .clock } }
    (∃ e', (e.tick HeldKey.keyboard (some ⟨0xBFE0000000000000⟩) { key := none }).result = .ok e' ∧
      e'.halted = true ∧ ∀ t : Timer, t.left e < t.left e') ∧
    ∀ t : Timer, ¬ e.Raises (some ⟨0x3FE0000000000000⟩) t := by
  intro e
  have hfetch : e.fetch = .ok 0x0000 := Except.eq_ok_of_toOption (by decide +kernel)
  have hsteps : e.steps (some ⟨0xBFE0000000000000⟩) = .ok (-30) :=
    Except.eq_ok_of_toOption (by decide +kernel)
  have htick : (e.tick HeldKey.keyboard (some ⟨0xBFE0000000000000⟩)
      { key := none }).result.toOption.map Engine.halted = some true := by decide +kernel
  obtain ⟨e', htick, hhalted⟩ := Option.map_eq_some_iff.1 htick
  have htick := Except.eq_ok_of_toOption htick
  obtain ⟨_, _, hrises, _⟩ := timers_rise_iff e (some ⟨0xBFE0000000000000⟩)
  obtain ⟨_, _, _, _, hforward⟩ := timers_rise_iff e (some ⟨0x3FE0000000000000⟩)
  refine ⟨⟨e', htick, hhalted, fun t => ?_⟩, hforward ?_ ?_ ?_⟩
  · have hset : ¬ e.Sets t := not_sets_of_fetch hfetch (by cases t <;> decide)
    refine (hrises _ _ _ htick t hset).2 ⟨rfl, -30, hsteps, ?_⟩
    cases t <;> decide
  · decide +kernel
  · decide +kernel
  · rintro x ⟨⟩
    decide +kernel

end Engine

end Chip8
