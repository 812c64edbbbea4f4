import Chip8.Proofs.Questions
import Chip8.Proofs.Turns

/-!
# Proofs/Waiting — waiting for a key

An engine that waits executes nothing until a key is named.  The ticks that it waits through are
given as a list of turns, each with the keyboard as it is then; of the engine only the timers may
change, and those only if they run while it waits (`Engine.waited`).  So a list of turns in which no
key is named comes to counting the timers (`through_silent`), wherever the program counter is and
whatever lies there in memory.  The first turn with a key ends the wait.
-/

namespace Chip8

theorem Registers.setAt_register (v : Registers) (x : Register) (byte : UInt8) :
    v.setAt x.val byte = .ok (v.put x byte) := by
  rw [setAt, number_of_lt x.isLt, Except.map, if_neg (by omega), Int.toNat_natCast]
  rfl

/-- A register takes an integer modulo 256. -/
theorem toNat_ofInt_byte (k : Int) : ((UInt8.ofInt k).toNat : Int) = k % 256 := by
  rw [UInt8.ofInt, UInt8.toNat_ofNat']
  omega

namespace Engine

variable {e e' counted : Engine} {turns : List Turn} {times : List (Option Double)}
  {elapsed : Option Double}

/-- The engine with its timers counted once for each time, if they run while it waits. -/
def waited (e : Engine) (times : List (Option Double)) : Except Error Engine :=
  if e.config.timersRunWhileWaiting then times.foldlM countTimers e else .ok e

/-! ## The timers of an engine that waits -/

/-- Counting changes the timers and nothing besides. -/
theorem eq_of_countTimers (h : e.countTimers elapsed = .ok counted) :
    counted = { e with timers := counted.timers } := by
  obtain ⟨timers, _, rfl⟩ := countTimers_eq_ok_iff.1 h
  rfl

/-- And so does counting again and again. -/
theorem eq_of_foldlM_countTimers (h : times.foldlM countTimers e = .ok counted) :
    counted = { e with timers := counted.timers } := by
  induction times generalizing e with
  | nil =>
    cases h
    rfl
  | cons elapsed times ih =>
    rw [List.foldlM_cons] at h
    obtain ⟨next, hnext, h⟩ := Except.bind_eq_ok_iff.1 h
    have hrest := ih h
    rw [eq_of_countTimers hnext] at hrest
    exact hrest

/-- While an engine waits nothing but its timers change. -/
theorem eq_of_waited (h : e.waited times = .ok counted) :
    counted = { e with timers := counted.timers } := by
  unfold waited at h
  split at h
  · exact eq_of_foldlM_countTimers h
  · cases h
    rfl

theorem waited_nil (e : Engine) : e.waited [] = .ok e := by
  unfold waited
  split <;> rfl

theorem waited_singleton (e : Engine) (elapsed : Option Double) :
    e.waited [elapsed] = e.countWhileWaiting elapsed := by
  unfold waited countWhileWaiting
  split
  · exact bind_pure _
  · rfl

/-- A wait is as long as its parts. -/
theorem waited_append (e : Engine) (times times' : List (Option Double)) :
    e.waited (times ++ times') = e.waited times >>= fun counted => counted.waited times' := by
  have hconfig {counted : Engine} (h : e.waited times = .ok counted) :
      counted.config.timersRunWhileWaiting = e.config.timersRunWhileWaiting := by
    rw [eq_of_waited h]
  cases hruns : e.config.timersRunWhileWaiting with
  | false => simp only [waited, hruns, Bool.false_eq_true, if_false, Except.ok_bind]
  | true =>
    have hfold : e.waited times = times.foldlM countTimers e := by rw [waited, if_pos hruns]
    rw [waited, if_pos hruns, List.foldlM_append, ← hfold]
    refine Except.bind_congr_ok fun counted hcounted => ?_
    rw [waited, if_pos ((hconfig hcounted).trans hruns)]

/-! ## Turns without a key, and the first with one -/

/-- A tick of an engine that waits counts as a wait does, and asks once. -/
theorem tickAt_of_waiting (hh : e.halted = false) (hw : e.waiting = true) (t : Turn) :
    e.tickAt t = e.waited [t.elapsed] >>= fun counted => counted.resume t.key := by
  rw [waited_singleton]
  exact result_tick_of_waiting hh hw

/-- **While no key is named** an engine that waits only counts its timers. -/
theorem through_silent (hh : e.halted = false) (hw : e.waiting = true)
    (hsilent : ∀ t ∈ turns, t.key = none) :
    e.through turns = e.waited (turns.map Turn.elapsed) := by
  induction turns generalizing e with
  | nil =>
    rw [List.map_nil, waited_nil]
    rfl
  | cons t turns ih =>
    have htick : e.tickAt t = e.waited [t.elapsed] := by
      rw [tickAt_of_waiting hh hw, hsilent t List.mem_cons_self]
      exact bind_pure _
    rw [← List.singleton_append, through_append, through_singleton, htick, List.map_append,
      List.map_singleton, waited_append]
    refine Except.bind_congr_ok fun counted hcounted => ?_
    have hsame := eq_of_waited hcounted
    refine ih ?_ ?_ fun t' ht' => hsilent t' (List.mem_cons_of_mem _ ht')
    · rw [hsame, hh]
    · rw [hsame, hw]

/-- **The first key that is named** ends the wait. -/
theorem through_answered (hh : e.halted = false) (hw : e.waiting = true)
    (hsilent : ∀ t ∈ turns, t.key = none) (t : Turn) :
    e.through (turns ++ [t]) =
      e.waited ((turns ++ [t]).map Turn.elapsed) >>= fun counted => counted.resume t.key := by
  rw [through_append, through_silent hh hw hsilent, List.map_append, List.map_singleton,
    waited_append, bind_assoc]
  refine Except.bind_congr_ok fun counted hcounted => ?_
  have hsame := eq_of_waited hcounted
  rw [through_singleton, tickAt_of_waiting (by rw [hsame, hh]) (by rw [hsame, hw])]

/-- **Waiting for a key.**  Of an engine that waits, nothing but the timers changes while no key is
named, and these only as they are counted: no word is fetched, and nothing else can fail.  The first
turn at which a key `k` is named writes `k` modulo 256 to the register that awaits it and ends the
wait; apart from that it, too, only counts the timers.  Every tick that succeeds asks for the key
that ends a wait once, if its engine waits, and never, if not. -/
theorem waiting_for_key (e : Engine) :
    (e.halted = false → e.waiting = true → ∀ turns : List Turn,
      (∀ t ∈ turns, t.key = none) →
      e.through turns = e.waited (turns.map Turn.elapsed) ∧
      ∀ (t : Turn) (k : Int), t.key = some k →
        let counting := e.waited ((turns ++ [t]).map Turn.elapsed)
        (e.through (turns ++ [t]) = counting >>= fun counted =>
          (counted.registers.setAt e.keyRegister (UInt8.ofInt k)).map fun registers =>
            { counted with registers, waiting := false }) ∧
        ∀ x : Register, e.keyRegister = x.val →
          e.through (turns ++ [t]) = counting.map fun counted => { counted with
            registers := counted.registers.put x (UInt8.ofInt k)
            waiting := false }) ∧
    (∀ times counted, e.waited times = .ok counted →
      counted = { e with timers := counted.timers }) ∧
    (∀ k : Int, ((UInt8.ofInt k).toNat : Int) = k % 256) ∧
    ∀ {σ : Type} (kb : Keyboard σ) (elapsed : Option Double) (s : σ) (asked : List Question),
      let o := e.tick kb.recorded elapsed (s, asked)
      o.result = (e.tick kb elapsed s).result ∧
      ∀ e', o.result = .ok e' → o.host.1 = (e.tick kb elapsed s).host ∧
        o.host.2.count .getKey =
          asked.count .getKey + if e.halted = false ∧ e.waiting = true then 1 else 0 := by
  refine ⟨fun hh hw turns hsilent => ⟨through_silent hh hw hsilent, fun t k hk => ?_⟩,
    fun _ _ => eq_of_waited, toNat_ofInt_byte, fun kb elapsed s asked =>
      ⟨result_tick_recorded kb elapsed e s asked, fun e' h => ?_⟩⟩
  · intro counting
    have hanswered : e.through (turns ++ [t]) = counting >>= fun counted =>
        (counted.registers.setAt e.keyRegister (UInt8.ofInt k)).map fun registers =>
          { counted with registers, waiting := false } := by
      rw [through_answered hh hw hsilent t, hk]
      refine Except.bind_congr_ok fun counted hcounted => ?_
      have hregister : counted.keyRegister = e.keyRegister := by rw [eq_of_waited hcounted]
      rw [resume, hregister]
    refine ⟨hanswered, fun x hx => ?_⟩
    rw [hanswered, hx]
    simp only [Registers.setAt_register]
    cases counting <;> rfl
  · rw [host_tick_recorded h]
    exact ⟨rfl, by rw [List.count_append, count_getKey_question]⟩

/-- Two turns without a key and one with a key of no keypad, where nothing can be fetched. -/
theorem waiting_for_key_of_end :
    let e : Engine := {
      pc := 0xFFF, waiting := true, keyRegister := 5, timers := { delay := 9, accumulator := 0 },
      config := { timersRunWhileWaiting := true } }
    let turn (key : Option Int) : Turn := ⟨HeldKey.keyboard, { key }, none⟩
    e.fetch = .error (.outOfBounds 0xFFF 2) ∧
    e.through [turn none, turn none] = .ok { e with timers := { e.timers with delay := 7 } } ∧
    e.through [turn none, turn none, turn (some (-1))] =
      .ok { e with
        timers := { e.timers with delay := 6 }, registers := e.registers.put 5 0xFF
        waiting := false } ∧
    (e.tick HeldKey.keyboard.recorded none ({ key := none }, [])).host.2.count .getKey = 1 := by
  intro e turn
  have hkeyless : ∀ t ∈ [turn none, turn none], t.key = none := by
    simp [turn, Turn.key, HeldKey.keyboard]
  have hbyte : UInt8.ofInt (-1) = 0xFF := by decide
  have hcounted : e.waited [none, none, none] =
      .ok { e with timers := { e.timers with delay := 6 } } := rfl
  obtain ⟨hwaits, _, _, hasks⟩ := waiting_for_key e
  obtain ⟨hsilent, hnamed⟩ := hwaits rfl rfl _ hkeyless
  have hfirst := (hnamed (turn (some (-1))) (-1) rfl).2 5 rfl
  have hasked := ((hasks HeldKey.keyboard none { key := none } []).2 _ rfl).2
  rw [hbyte] at hfirst
  refine ⟨Memory.word_eq_error_iff.2 ⟨by decide, rfl⟩, hsilent, ?_, hasked⟩
  exact hfirst.trans (congrArg _ hcounted)

end Engine

end Chip8
