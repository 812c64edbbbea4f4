import Chip8.Proofs.Countdown
import Chip8.Proofs.Exact

/-!
# Proofs/Clock — timers that follow a clock depend on the total time

A count gathers seconds, takes the whole part off as steps and keeps the fraction
(`Timers.follow_eq_ok`).  Where nothing is rounded, the numbers are rational numbers
(`RationalSeconds`), and what gathers over several counts is what gathers at once
(`Timers.followAll_eq_ok`): the fraction that one count keeps goes into the next, and whole parts
add up.  Steps that are not negative add up on the timers as well (`Timers.countDown_countDown`),
because a timer that has run down stays there.

The engine counts in doubles.  Their whole parts are taken off exactly, so all that can be rounded
are the products and the sums (`Timers.neverRounds`).
-/

namespace Chip8

/-! ## Steps -/

namespace Timers

variable {α : Type}

/-- Steps that are not negative add up. -/
theorem countDown_countDown (timer : UInt8) {m n : ℤ} (hm : 0 ≤ m) (hn : 0 ≤ n) :
    countDown (countDown timer m) n = countDown timer (m + n) := by
  have hfirst := toNat_countDown timer m
  have hsecond := toNat_countDown (countDown timer m) n
  have hboth := toNat_countDown timer (m + n)
  have htimer := timer.toNat_lt
  refine UInt8.toNat_inj.1 ?_
  omega

/-- Counting down twice is counting down by the sum. -/
theorem lower_lower (t : Timers α) (x : α) {m n : ℤ} (hm : 0 ≤ m) (hn : 0 ≤ n) :
    ({ t.lower m with accumulator := x } : Timers α).lower n =
      { t.lower (m + n) with accumulator := x } := by
  simp only [lower, countDown_countDown _ hm hn]

/-- A timer that is counted down stops at zero. -/
theorem toNat_countDown_of_nonneg (timer : UInt8) {n : ℤ} (hn : 0 ≤ n) :
    ((countDown timer n).toNat : ℤ) = max (timer.toNat - n) 0 := by
  have hleft := toNat_countDown timer n
  have htimer := timer.toNat_lt
  omega

end Timers

/-! ## Exact seconds -/

/-- Seconds that stand for rational numbers, and whose whole parts are taken off exactly. -/
class RationalSeconds (α : Type) [Seconds α] where
  rational? : α → Option ℚ
  rational?_zero : rational? Seconds.zero = some 0
  rational?_of_isZero {x : α} : Seconds.isZero x → rational? x = some 0
  wholePart_eq_floor {x : α} {q : ℚ} :
    rational? x = some q → 0 ≤ q → Seconds.wholePart x = .ok ⌊q⌋
  rational?_sub_ofInt {x : α} {q : ℚ} :
    rational? x = some q → 0 ≤ q → rational? (x - Seconds.ofInt ⌊q⌋) = some (Int.fract q)

/-- Doubles are exact where nothing is rounded. -/
instance : RationalSeconds Double where
  rational? := Double.rational?
  rational?_zero := by decide +kernel
  rational?_of_isZero := Double.rational?_of_isZero
  wholePart_eq_floor := Double.wholePart_eq_floor
  rational?_sub_ofInt := Double.rational?_sub_ofInt

/-- Rational numbers count seconds, too. -/
instance : Seconds ℚ where
  zero := 0
  isZero q := q == 0
  ofInt n := n
  wholePart q := .ok (q.num.tdiv q.den)

/-- Rational numbers are exact. -/
instance : RationalSeconds ℚ where
  rational? := some
  rational?_zero := rfl
  rational?_of_isZero h := congrArg some (beq_iff_eq.1 h)
  wholePart_eq_floor h hq := by
    cases h
    rw [Rat.floor_def', ← Int.tdiv_eq_ediv_of_nonneg (Rat.num_nonneg.2 hq)]
    rfl
  rational?_sub_ofInt h _ := by
    cases h
    rfl

namespace Timers

open RationalSeconds

variable {α : Type} [Seconds α] [RationalSeconds α]

/-- The seconds of a count. -/
def seconds (elapsed : Option α) : α :=
  match elapsed with
  | some s => if Seconds.isZero s then Seconds.zero else s
  | none => Seconds.zero

/-- The time of a count, as a rational number. -/
def time? (elapsed : Option α) : Option ℚ :=
  match elapsed with
  | some s => rational? s
  | none => some 0

/-- Whether a product is not rounded. -/
def exactMul (x y : α) : Bool :=
  rational? (x * y) == do return (← rational? x) * (← rational? y)

/-- Whether a sum is not rounded. -/
def exactAdd (x y : α) : Bool :=
  rational? (x + y) == do return (← rational? x) + (← rational? y)

/-- Whether no product and no sum is rounded in a list of counts. -/
def neverRounds (frequency : α) : Timers α → List (Option α) → Bool
  | _, [] => true
  | t, elapsed :: rest =>
    exactMul (seconds elapsed) frequency &&
      exactAdd t.accumulator (seconds elapsed * frequency) &&
      match t.follow frequency elapsed with
      | .ok next => neverRounds frequency next rest
      | .error _ => true

/-- That a clock of a positive frequency has gathered a part of a step. -/
structure Gathers (t : Timers α) (frequency : α) (a f : ℚ) : Prop where
  accumulator : rational? t.accumulator = some a
  nonneg : 0 ≤ a
  lt_one : a < 1
  frequency : rational? frequency = some f
  pos : 0 < f

/-- That a list of counts takes some times, none of them below zero, and rounds nothing. -/
structure Takes (t : Timers α) (frequency : α) (elapsed : List (Option α)) (times : List ℚ) :
    Prop where
  times_eq : elapsed.map time? = times.map some
  nonneg : ∀ τ ∈ times, 0 ≤ τ
  exact : t.neverRounds frequency elapsed

/-- The timers after a list of counts. -/
def followAll (t : Timers α) (frequency : α) (elapsed : List (Option α)) :
    Except Error (Timers α) :=
  elapsed.foldlM (fun t x => t.follow frequency x) t

/-- That timers are what is left of others when steps and a part of a step have gathered. -/
structure Left (t : Timers α) (gathered : ℚ) (t' : Timers α) : Prop where
  accumulator : rational? t'.accumulator = some (Int.fract gathered)
  delay : (t'.delay.toNat : ℤ) = max (t.delay.toNat - ⌊gathered⌋) 0
  sound : (t'.sound.toNat : ℤ) = max (t.sound.toNat - ⌊gathered⌋) 0

variable {t t' : Timers α} {frequency x y : α} {elapsed : Option α} {a f p q τ : ℚ}

/-- A product of doubles that loses nothing is the product of their values. -/
theorem rational?_mul (h : exactMul x y) (hx : rational? x = some p) (hy : rational? y = some q) :
    rational? (x * y) = some (p * q) := by
  rw [exactMul, hx, hy] at h
  exact beq_iff_eq.1 h

theorem rational?_add (h : exactAdd x y) (hx : rational? x = some p) (hy : rational? y = some q) :
    rational? (x + y) = some (p + q) := by
  rw [exactAdd, hx, hy] at h
  exact beq_iff_eq.1 h

/-- A time in seconds is the number it stands for; no time is zero. -/
theorem rational?_seconds (h : time? elapsed = some τ) : rational? (seconds elapsed) = some τ := by
  cases elapsed with
  | none =>
    cases h
    exact rational?_zero
  | some s =>
    rw [seconds]
    split
    · next hzero => rw [rational?_zero, ← rational?_of_isZero hzero, ← h, time?]
    · exact h

/-! ## One count -/

/-- **A count takes the whole part off** what has gathered, and keeps the fraction. -/
theorem follow_eq_ok (h : t.Gathers frequency a f) (hτ : time? elapsed = some τ)
    (hτ_nonneg : 0 ≤ τ) (hmul : exactMul (seconds elapsed) frequency)
    (hadd : exactAdd t.accumulator (seconds elapsed * frequency)) :
    ∃ x, t.follow frequency elapsed = .ok { t.lower ⌊a + f * τ⌋ with accumulator := x } ∧
      rational? x = some (Int.fract (a + f * τ)) := by
  have hproduct := rational?_mul hmul (rational?_seconds hτ) h.frequency
  have hgathered := rational?_add hadd h.accumulator hproduct
  have hnonneg : 0 ≤ a + τ * f := add_nonneg h.nonneg (mul_nonneg hτ_nonneg h.pos.le)
  rw [mul_comm f τ]
  refine ⟨_, ?_, rational?_sub_ofInt hgathered hnonneg⟩
  exact Except.bind_eq_ok_iff.2 ⟨_, wholePart_eq_floor hgathered hnonneg, rfl⟩

/-! ## Counts in a row -/

section

variable {first : Option α} {rest counts : List (Option α)} {times : List ℚ}

/-- The first count of a list that rounds nowhere rounds nowhere. -/
theorem Takes.head (h : t.Takes frequency (first :: rest) (τ :: times)) :
    time? first = some τ ∧ 0 ≤ τ ∧ exactMul (seconds first) frequency ∧
      exactAdd t.accumulator (seconds first * frequency) := by
  have hexact := h.exact
  rw [neverRounds, Bool.and_eq_true, Bool.and_eq_true] at hexact
  exact ⟨(List.cons_eq_cons.1 h.times_eq).1, h.nonneg τ List.mem_cons_self, hexact.1⟩

theorem Takes.tail (h : t.Takes frequency (first :: rest) (τ :: times))
    (hfollow : t.follow frequency first = .ok t') : t'.Takes frequency rest times where
  times_eq := (List.cons_eq_cons.1 h.times_eq).2
  nonneg σ hσ := h.nonneg σ (List.mem_cons_of_mem τ hσ)
  exact := by
    have hexact := h.exact
    rw [neverRounds, hfollow, Bool.and_eq_true] at hexact
    exact hexact.2

/-- What a count keeps is a part of a step again. -/
theorem Gathers.next (h : t.Gathers frequency a f)
    (hkept : rational? t'.accumulator = some (Int.fract q)) :
    t'.Gathers frequency (Int.fract q) f where
  accumulator := hkept
  nonneg := Int.fract_nonneg q
  lt_one := Int.fract_lt_one q
  frequency := h.frequency
  pos := h.pos

theorem gathered_nonneg (h : t.Gathers frequency a f) (htakes : t'.Takes frequency counts times) :
    0 ≤ a + f * times.sum :=
  add_nonneg h.nonneg (mul_nonneg h.pos.le (List.sum_nonneg htakes.nonneg))

/-- **What gathers over several counts** is what gathers at once. -/
theorem followAll_eq_ok (h : t.Gathers frequency a f) (htakes : t.Takes frequency counts times) :
    ∃ x, t.followAll frequency counts =
        .ok { t.lower ⌊a + f * times.sum⌋ with accumulator := x } ∧
      rational? x = some (Int.fract (a + f * times.sum)) := by
  induction counts generalizing t a times with
  | nil =>
    obtain rfl := List.map_eq_nil_iff.1 htakes.times_eq.symm
    rw [List.sum_nil, mul_zero, add_zero, Int.floor_eq_zero_iff.2 ⟨h.nonneg, h.lt_one⟩,
      Int.fract_eq_self.2 ⟨h.nonneg, h.lt_one⟩, lower_zero]
    exact ⟨t.accumulator, rfl, h.accumulator⟩
  | cons first rest ih =>
    obtain ⟨τ, times, rfl, -, -⟩ := List.map_eq_cons_iff.1 htakes.times_eq.symm
    obtain ⟨hτ, hτ_nonneg, hmul, hadd⟩ := htakes.head
    obtain ⟨y, hfollow, hy⟩ := follow_eq_ok h hτ hτ_nonneg hmul hadd
    let next : Timers α := { t.lower ⌊a + f * τ⌋ with accumulator := y }
    have hnext : next.Gathers frequency (Int.fract (a + f * τ)) f := h.next hy
    have htail : next.Takes frequency rest times := htakes.tail hfollow
    obtain ⟨x, hrest, hx⟩ := ih hnext htail
    -- the fraction that one count keeps goes into the next
    have hkept : a + f * (τ :: times).sum =
        Int.fract (a + f * τ) + f * times.sum + ⌊a + f * τ⌋ := by
      rw [List.sum_cons, Int.fract]
      ring
    have hfirst_steps : 0 ≤ ⌊a + f * τ⌋ :=
      Int.floor_nonneg.2 (add_nonneg h.nonneg (mul_nonneg h.pos.le hτ_nonneg))
    have hrest_steps := Int.floor_nonneg.2 (gathered_nonneg hnext htail)
    rw [hkept, Int.floor_add_intCast, Int.fract_add_intCast]
    refine ⟨x, ?_, hx⟩
    rw [followAll, List.foldlM_cons, hfollow, Except.ok_bind, ← followAll, hrest,
      lower_lower _ _ hfirst_steps hrest_steps, add_comm]

/-- **Counting any list of times that rounds nowhere** leaves the floor of what was gathered counted
and the rest in the accumulator. -/
theorem exists_left (h : t.Gathers frequency a f) (htakes : t.Takes frequency counts times) :
    ∃ t', t.followAll frequency counts = .ok t' ∧ t.Left (a + f * times.sum) t' := by
  have hsteps := Int.floor_nonneg.2 (gathered_nonneg h htakes)
  obtain ⟨x, hfollow, hx⟩ := followAll_eq_ok h htakes
  exact ⟨_, hfollow, hx, toNat_countDown_of_nonneg t.delay hsteps,
    toNat_countDown_of_nonneg t.sound hsteps⟩

end

/-- What is left is known from what has gathered. -/
theorem Left.unique {t'' : Timers α} (h : t.Left q t') (h' : t.Left q t'') :
    t'.delay = t''.delay ∧ t'.sound = t''.sound ∧
      rational? t'.accumulator = rational? t''.accumulator := by
  have hdelay := h.delay.trans h'.delay.symm
  have hsound := h.sound.trans h'.sound.symm
  exact ⟨UInt8.toNat_inj.1 (by omega), UInt8.toNat_inj.1 (by omega),
    h.accumulator.trans h'.accumulator.symm⟩

/-- Rational numbers are never rounded. -/
theorem neverRounds_rational (f : ℚ) : ∀ (t : Timers ℚ) (elapsed : List (Option ℚ)),
    t.neverRounds f elapsed
  | _, [] => rfl
  | t, first :: rest => by
    have hmul : exactMul (seconds first) f := beq_self_eq_true (some (seconds first * f))
    have hadd : exactAdd t.accumulator (seconds first * f) :=
      beq_self_eq_true (some (t.accumulator + seconds first * f))
    rw [neverRounds, hmul, hadd]
    cases t.follow f first with
    | ok next => exact neverRounds_rational f next rest
    | error err => rfl

theorem takes_rational (t : Timers ℚ) (f : ℚ) {elapsed : List (Option ℚ)}
    (h : ∀ x ∈ elapsed, 0 ≤ x.getD 0) : t.Takes f elapsed (elapsed.map (·.getD 0)) where
  times_eq := by
    rw [List.map_map]
    refine List.map_congr_left fun x _ => ?_
    cases x <;> rfl
  nonneg := by
    intro τ hτ
    obtain ⟨x, hx, rfl⟩ := List.mem_map.1 hτ
    exact h x hx
  exact := neverRounds_rational f t elapsed

end Timers

/-! ## Engines -/

namespace Engine

variable {e : Engine}

/-- Engines that follow a clock count as their timers do. -/
theorem foldlM_countTimers (h : e.config.timerMode = .clock) (elapsed : List (Option Double)) :
    elapsed.foldlM countTimers e =
      (e.timers.followAll e.config.timerFrequency elapsed).map fun timers => { e with timers } := by
  rw [Timers.followAll]
  induction elapsed generalizing e with
  | nil => rfl
  | cons first rest ih =>
    rw [List.foldlM_cons, List.foldlM_cons, countTimers, h, Timers.advance]
    cases e.timers.follow e.config.timerFrequency first with
    | ok timers => exact @ih { e with timers } h
    | error err => rfl

/-- The same for an engine on the clock: counting a list of times moves its timers, and nothing
besides. -/
theorem exists_left {elapsed : List (Option Double)} {times : List ℚ} {a f : ℚ}
    (hmode : e.config.timerMode = .clock) (h : e.timers.Gathers e.config.timerFrequency a f)
    (htakes : e.timers.Takes e.config.timerFrequency elapsed times) :
    ∃ timers, elapsed.foldlM countTimers e = .ok { e with timers } ∧
      e.timers.Left (a + f * times.sum) timers := by
  obtain ⟨timers, hfollow, hleft⟩ := Timers.exists_left h htakes
  rw [foldlM_countTimers hmode, hfollow]
  exact ⟨timers, rfl, hleft⟩

/-- **Clock timers depend on the total time.**  Counts whose times are not below zero succeed.  What
has gathered is what was there, plus the frequency times the sum of the times: its fraction is kept,
and its whole part is taken off both timers, which stop at zero.  So it is over the rational
numbers, and so it is in doubles where no product and no sum is rounded.  Then any other list of
counts that takes the same time in all leaves the same timers, in whatever order and however
split. -/
theorem timers_follow_total_time :
    (∀ (t : Timers ℚ) (f : ℚ) (elapsed : List (Option ℚ)), 0 < f → 0 ≤ t.accumulator →
      t.accumulator < 1 → (∀ x ∈ elapsed, 0 ≤ x.getD 0) →
        let gathered := t.accumulator + f * (elapsed.map (·.getD 0)).sum
        ∃ t', t.followAll f elapsed = .ok t' ∧ t'.accumulator = Int.fract gathered ∧
          t.Left gathered t') ∧
    ∀ (e : Engine) (a f : ℚ), e.config.timerMode = .clock →
      e.timers.accumulator.rational? = some a → 0 ≤ a → a < 1 →
      e.config.timerFrequency.rational? = some f → 0 < f →
      ∀ (elapsed : List (Option Double)) (times : List ℚ),
        e.timers.Takes e.config.timerFrequency elapsed times →
        ∃ timers, elapsed.foldlM countTimers e = .ok { e with timers } ∧
          e.timers.Left (a + f * times.sum) timers ∧
          ∀ (elapsed' : List (Option Double)) (times' : List ℚ),
            e.timers.Takes e.config.timerFrequency elapsed' times' → times'.sum = times.sum →
            ∃ timers', elapsed'.foldlM countTimers e = .ok { e with timers := timers' } ∧
              timers'.delay = timers.delay ∧ timers'.sound = timers.sound ∧
              timers'.accumulator.rational? = timers.accumulator.rational? := by
  refine ⟨fun t f elapsed hf h0 h1 helapsed => ?_,
    fun e a f hmode ha h0 h1 hf hf_pos elapsed times htakes => ?_⟩
  · obtain ⟨t', hfollow, hleft⟩ :=
      Timers.exists_left ⟨rfl, h0, h1, rfl, hf⟩ (t.takes_rational f helapsed)
    exact ⟨t', hfollow, Option.some.inj hleft.accumulator, hleft⟩
  · have hgathers : e.timers.Gathers e.config.timerFrequency a f := ⟨ha, h0, h1, hf, hf_pos⟩
    obtain ⟨timers, hcount, hleft⟩ := exists_left hmode hgathers htakes
    refine ⟨timers, hcount, hleft, fun elapsed' times' htakes' hsum => ?_⟩
    obtain ⟨timers', hcount', hleft'⟩ := exists_left hmode hgathers htakes'
    rw [hsum] at hleft'
    exact ⟨timers', hcount', hleft'.unique hleft⟩

/-- Three sixty-fourths of a second at sixty steps a second, in three counts and in one: a quarter
of a step was there, so three steps and a sixteenth have gathered. -/
theorem timers_follow_total_time_of_sixty_fourths :
    (∃ t', ({ delay := 9, sound := 2, accumulator := 1 / 4 } : Timers ℚ).followAll 60
      [some (1 / 64), none, some (1 / 32)] = .ok t' ∧ t'.accumulator = 1 / 16) ∧
    let e : Engine := {
      timers := { delay := 9, sound := 2, accumulator := ⟨0x3FD0000000000000⟩ }
      config := { timerMode := .clock } }
    ∃ timers timers',
      [some ⟨0x3F90000000000000⟩, none, some ⟨0x3FA0000000000000⟩].foldlM countTimers e =
        .ok { e with timers } ∧
      [some ⟨0x3FA8000000000000⟩].foldlM countTimers e = .ok { e with timers := timers' } ∧
      timers.delay = 6 ∧ timers.sound = 0 ∧ timers.accumulator.rational? = some (1 / 16) ∧
      timers'.delay = 6 ∧ timers'.sound = 0 ∧ timers'.accumulator.rational? = some (1 / 16) := by
  obtain ⟨hrational, hdouble⟩ := timers_follow_total_time
  obtain ⟨t', hfollow, haccumulator, -⟩ :=
    hrational { delay := 9, sound := 2, accumulator := 1 / 4 } 60
      [some (1 / 64), none, some (1 / 32)] (by decide +kernel) (by decide +kernel)
      (by decide +kernel) (by decide +kernel)
  refine ⟨⟨t', hfollow, haccumulator.trans (by decide +kernel)⟩, ?_⟩
  intro e
  have htakes : e.timers.Takes e.config.timerFrequency
      [some ⟨0x3F90000000000000⟩, none, some ⟨0x3FA0000000000000⟩] [1 / 64, 0, 1 / 32] :=
    ⟨by decide +kernel, by decide +kernel, by decide +kernel⟩
  have htakes' : e.timers.Takes e.config.timerFrequency [some ⟨0x3FA8000000000000⟩] [3 / 64] :=
    ⟨by decide +kernel, by decide +kernel, by decide +kernel⟩
  obtain ⟨timers, hcount, hleft, hother⟩ := hdouble e (1 / 4) 60 rfl (by decide +kernel)
    (by decide +kernel) (by decide +kernel) (by decide +kernel) (by decide +kernel) _ _ htakes
  obtain ⟨timers', hcount', hdelay, hsound, haccumulator⟩ :=
    hother _ _ htakes' (by decide +kernel)
  have hfloor : ⌊(1 / 4 + 60 * ([1 / 64, 0, 1 / 32] : List ℚ).sum : ℚ)⌋ = 3 := by decide +kernel
  have hfract : Int.fract (1 / 4 + 60 * ([1 / 64, 0, 1 / 32] : List ℚ).sum : ℚ) = 1 / 16 := by
    decide +kernel
  have hdelay6 : timers.delay = 6 := by
    have h := hleft.delay
    rw [hfloor] at h
    exact UInt8.toNat_inj.1 (Int.ofNat_inj.1 h)
  have hsound0 : timers.sound = 0 := by
    have h := hleft.sound
    rw [hfloor] at h
    exact UInt8.toNat_inj.1 (Int.ofNat_inj.1 h)
  have hleft16 : timers.accumulator.rational? = some (1 / 16) := by
    rw [← hfract]
    exact hleft.accumulator
  exact ⟨timers, timers', hcount, hcount', hdelay6, hsound0, hleft16, hdelay.trans hdelay6,
    hsound.trans hsound0, haccumulator.trans hleft16⟩

end Engine

end Chip8
