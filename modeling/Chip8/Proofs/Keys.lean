import Chip8.Proofs.Questions
import Chip8.Proofs.Refusal
import Chip8.Proofs.Turns

/-!
# Proofs/Keys — keyboards matter only where they are asked

Two instructions ask for a key, and a waiting engine asks for the key that ends its wait.  Two
keyboards that agree on the answers (`Engine.Agree`) are the same to a tick, whatever they say of
other keys and at other times (`tickAt_eq_of_agree`); so they are the same to a run.

The key that is asked for is the low digit of a register, so it is one of the sixteen, also in ticks
that fail (`preserves_tick`).  A keyboard that answers about those adds no errors of its own
(`ofEngine_of_tick`), and the keypad answers about all of them.
-/

namespace Chip8

variable {σ : Type}

/-- The keypad answers about all of its sixteen keys. -/
theorem Keypad.answers (p : Keypad) : Keypad.keyboard.Answers p := by
  intro key h₀ h
  have hparse : Keypad.parseKey key = .ok ⟨key.toNat, by omega⟩ := dif_pos ⟨h₀, h⟩
  exact ⟨p.keys[key.toNat], congrArg (Except.map fun k => p.keys[k]) hparse⟩

/-- That a question is for the key that ends a wait, or about one of the sixteen keys. -/
def Question.Proper : Question → Prop
  | .isPressed key => 0 ≤ key ∧ key < 16
  | .getKey => True

/-- An error that comes from the engine, and not from its keyboard. -/
def Error.OfEngine : Error → Prop
  | .fault _ | .wordRange _ | .infinite | .notANumber | .tooWide => True
  | _ => False

namespace Interaction

variable {α β : Type} {P : σ → Prop} {x : Interaction σ α} {f : α → Interaction σ β}

/-- That an operation keeps a condition on its host, even if it fails. -/
def Preserves (P : σ → Prop) (x : Interaction σ α) : Prop := ∀ s, P s → P (x s).host

theorem Quiet.preserves (hx : x.Quiet) : x.Preserves P := by
  intro s hs
  rwa [hx s]

/-- What both parts keep is kept by one after the other, also if the first fails. -/
theorem Preserves.bind (hx : x.Preserves P) (hf : ∀ a, (f a).Preserves P) :
    (x >>= f).Preserves P := by
  intro s hs
  have hhost := hx s hs
  rw [bind_apply]
  revert hhost
  rcases x s with ⟨_ | a, host, log⟩ <;> intro hhost
  · exact hhost
  · exact hf a host hhost

end Interaction

namespace Engine

variable {kb : Keyboard σ} {s : σ} {e : Engine} {t t' : Turn} {w : Word} {i : Instruction}
  {elapsed : Option Double} {err : Error}

/-- The key that a word asks for, if it asks for any. -/
def keyOf (e : Engine) (w : Word) : Int := (e.registers[w.x].toNat % 16 : Nat)

/-- That two turns with the same time have keyboards that agree where an engine asks them. -/
structure Agree (e : Engine) (t t' : Turn) : Prop where
  elapsed : t.elapsed = t'.elapsed
  pressed : ∀ w, e.ExecutesAt t.elapsed w → w.hasFormIn ["Ex9E", "ExA1"] →
    t.pressed (e.keyOf w) = t'.pressed (e.keyOf w)
  key : e.halted = false → e.waiting = true → t.key = t'.key

/-! ## The words that ask -/

/-- A word that asks for a key is one of the two skips, and asks for the key in its register. -/
theorem keyAsked_eq_some (hi : Instruction.ofWord? w = some i) {key : Int}
    (hkey : e.keyAsked i = some key) : w.hasFormIn ["Ex9E", "ExA1"] ∧ e.keyOf w = key := by
  obtain ⟨hform, hx⟩ := Instruction.ofWord?_eq_some_iff.1 hi
  cases i with
  | skipIfPressed x | skipUnlessPressed x =>
    obtain rfl := hx
    exact ⟨Word.hasFormIn_of_mem hform (by simp [Instruction.form]), Option.some.inj hkey⟩
  | _ => cases hkey

/-- Keyboards that agree where they are asked are the same to a tick. -/
theorem tickAt_eq_of_agree (h : e.Agree t t') : e.tickAt t = e.tickAt t' := by
  unfold tickAt
  rw [← h.elapsed]
  cases hh : e.halted with
  | true => rw [result_tick_of_halted hh, result_tick_of_halted hh]
  | false =>
    cases hw : e.waiting with
    | true =>
      have hkey : (t.keyboard.getKey t.host).1 = (t'.keyboard.getKey t'.host).1 := h.key hh hw
      rw [result_tick_of_waiting hh hw, result_tick_of_waiting hh hw, hkey]
    | false =>
      rw [result_tick_of_running hh hw, result_tick_of_running hh hw]
      refine Except.bind_congr_ok fun counted hc => Except.bind_congr_ok fun w hf => ?_
      obtain ⟨timers, _, rfl⟩ := countTimers_eq_ok_iff.1 hc
      have hx : e.ExecutesAt t.elapsed w := ⟨⟨hh, hw, Except.mapError_eq_ok_iff.1 hf⟩, _, hc⟩
      -- The timers have counted, but the register that names the key is as it was.
      refine result_executeWord_congr fun i hi => ?_
      unfold answer
      cases hkey : keyAsked { e with timers } i with
      | none => rfl
      | some key =>
        obtain ⟨hform, rfl⟩ := keyAsked_eq_some hi hkey
        exact h.pressed w hx hform

/-- **Keyboards that agree where they are asked** are the same to a run. -/
theorem through_eq_of_agree {turns : List (Turn × Turn)}
    (h : ∀ before t after x, turns = before ++ t :: after →
      e.through (before.map Prod.fst) = .ok x → x.Agree t.1 t.2) (n : Nat) :
    e.through ((turns.take n).map Prod.fst) = e.through ((turns.take n).map Prod.snd) := by
  have hcarries : Carries id Prod.fst Prod.snd e turns := by
    intro before t after x hturns hx
    rw [Except.map_id]
    exact (tickAt_eq_of_agree (h before t after x hturns hx)).symm
  have hmap := through_map (hcarries.take n)
  rw [Except.map_id] at hmap
  exact hmap.symm

/-! ## The keys that are asked for -/

/-- That all questions on a record are proper. -/
def Recorded (x : σ × List Question) : Prop := ∀ q ∈ x.2, q.Proper

/-- A record of proper questions stays one behind a proper question. -/
theorem Recorded.append {record : List Question} {s' : σ} {q : Question}
    (h : Recorded (s, record)) (hq : q.Proper) : Recorded (s', record ++ [q]) := by
  intro q' hq'
  obtain hq' | hq' := List.mem_append.1 hq'
  · exact h q' hq'
  · obtain rfl := List.mem_singleton.1 hq'
    exact hq

/-- A word asks for no key beyond the sixteen. -/
theorem preserves_executeWord (kb : Keyboard σ) (e : Engine) (w : Word) :
    (e.executeWord kb.recorded w).Preserves Recorded := by
  rw [executeWord]
  cases Instruction.ofWord? w with
  | none => exact (Interaction.quiet_lift _).preserves
  | some i =>
    have hrest (pressed : Bool) : Interaction.Preserves (Recorded (σ := σ))
        (liftM (e.perform pressed i) >>= fun x : Engine × Flow => x.1.proceed x.2) :=
      ((Interaction.quiet_liftFault _).bind fun x : Engine × Flow =>
        quiet_proceed x.1 x.2).preserves
    change (e.executeInstruction kb.recorded i).Preserves Recorded
    rw [executeInstruction]
    cases hkey : e.keyAsked i with
    | none => exact (Interaction.quiet_pure false).preserves.bind hrest
    | some key =>
      exact Interaction.Preserves.bind (fun _ h => h.append (keyAsked_range hkey)) hrest

theorem preserves_execute (kb : Keyboard σ) (e : Engine) (code : Int) :
    (e.execute kb.recorded code).Preserves Recorded :=
  (Interaction.quiet_lift _).preserves.bind (preserves_executeWord kb e)

/-- A wait asks which key has been pressed, and nothing else. -/
theorem preserves_resolveWait (kb : Keyboard σ) (e : Engine) :
    (e.resolveWait kb.recorded).Preserves Recorded := by
  intro x hx
  rw [host_resolveWait]
  exact hx.append trivial

/-- **A tick asks for no key beyond the sixteen**, even if it fails. -/
theorem preserves_tick (kb : Keyboard σ) (e : Engine)
    (elapsed : Option Double) : (e.tick kb.recorded elapsed).Preserves Recorded := by
  cases hh : e.halted with
  | true =>
    rw [tick_of_halted hh]
    exact (Interaction.quiet_pure e).preserves
  | false =>
    cases hw : e.waiting with
    | true =>
      rw [tick_of_waiting hh hw]
      exact (Interaction.quiet_lift _).preserves.bind (preserves_resolveWait kb)
    | false =>
      rw [tick_of_running hh hw]
      exact (Interaction.quiet_lift _).preserves.bind fun counted =>
        (Interaction.quiet_liftFault _).preserves.bind (preserves_executeWord kb counted)

/-! ## The errors of keyboards that answer -/

/-- Counting the timers fails with errors of the engine. -/
theorem ofEngine_of_countTimers (h : e.countTimers elapsed = .error err) : err.OfEngine := by
  have hadvance := Except.map_eq_error_iff.1 h
  cases hmode : e.config.timerMode with
  | perTick =>
    rw [hmode] at hadvance
    cases hadvance
  | clock =>
    rw [hmode] at hadvance
    obtain hwhole | ⟨steps, _, hsteps⟩ := Except.bind_eq_error_iff.1 hadvance
    · simp only [Seconds.wholePart] at hwhole
      split at hwhole <;> cases hwhole <;> trivial
    · cases hsteps

theorem ofEngine_of_resume {key : Option Int} (h : e.resume key = .error err) : err.OfEngine := by
  cases key with
  | none => cases h
  | some key =>
    have hnumber := Except.map_eq_error_iff.1 (Except.map_eq_error_iff.1 h)
    dsimp only [Registers.number] at hnumber
    generalize (if e.keyRegister < 0 then e.keyRegister + 16 else e.keyRegister) = n at hnumber
    split at hnumber <;> cases hnumber
    trivial

/-- So does a word, on a keyboard that answers. -/
theorem ofEngine_of_executeWord (hkb : kb.Answers s)
    (h : (e.executeWord kb w s).result = .error err) : err.OfEngine := by
  obtain ⟨fault, _, rfl⟩ := (executeWord_eq_error_iff_faultOf hkb).1 h
  trivial

theorem ofEngine_of_execute (hkb : kb.Answers s) {code : Int}
    (h : (e.execute kb code s).result = .error err) : err.OfEngine := by
  rw [result_execute] at h
  obtain hparse | ⟨w, _, h⟩ := Except.bind_eq_error_iff.1 h
  · unfold Word.parse at hparse
    split at hparse <;> cases hparse
    trivial
  · exact ofEngine_of_executeWord hkb h

/-- **On a keyboard that answers about its sixteen keys** a tick fails with errors of the engine. -/
theorem ofEngine_of_tick (hkb : kb.Answers s) (h : (e.tick kb elapsed s).result = .error err) :
    err.OfEngine := by
  cases hh : e.halted with
  | true => cases (result_tick_of_halted hh).symm.trans h
  | false =>
    cases hw : e.waiting with
    | true =>
      rw [result_tick_of_waiting hh hw] at h
      obtain hcount | ⟨counted, _, hresume⟩ := Except.bind_eq_error_iff.1 h
      · unfold countWhileWaiting at hcount
        split at hcount
        · exact ofEngine_of_countTimers hcount
        · cases hcount
      · exact ofEngine_of_resume hresume
    | false =>
      rw [result_tick_of_running hh hw] at h
      obtain hcount | ⟨counted, _, h⟩ := Except.bind_eq_error_iff.1 h
      · exact ofEngine_of_countTimers hcount
      · obtain hfetch | ⟨w, _, h⟩ := Except.bind_eq_error_iff.1 h
        · obtain ⟨fault, _, rfl⟩ := Except.mapError_eq_error_iff.1 hfetch
          trivial
        · exact ofEngine_of_executeWord hkb h

/-! ## Skipping on a key -/

/-- A word that asks for a key and only moves the program counter goes where the answer says. -/
theorem result_execute_of_asks (hi : Instruction.ofWord? w = some i) {key : Int}
    (hkey : e.keyAsked i = some key) {flow : Bool → Flow}
    (hperform : ∀ down, e.perform down i = .ok (e, flow down)) (kb : Keyboard σ) (s : σ) :
    (e.execute kb w.toNat s).result =
      (kb.isPressed key s).1.map fun down => e.follow (flow down) := by
  have hexecute : e.executeWord kb w = e.executeInstruction kb i := by rw [executeWord, hi]
  have hanswer : e.answer kb s i = (kb.isPressed key s).1 := by rw [answer, hkey]
  rw [result_execute_natCast, hexecute, result_executeInstruction, hanswer]
  simp only [hperform]
  cases (kb.isPressed key s).1 <;> rfl

/-- The word `Ex9E` skips if its key is down. -/
theorem result_execute_skipIfPressed (hw : w.hasForm "Ex9E") (kb : Keyboard σ) (s : σ) :
    (e.execute kb w.toNat s).result = (kb.isPressed (e.keyOf w) s).1.map fun down =>
      if down then e.follow .skip else e.follow .next := by
  have hi : Instruction.ofWord? w = some (.skipIfPressed w.x) :=
    Instruction.ofWord?_eq_some_iff.2 ⟨hw, rfl⟩
  rw [result_execute_of_asks hi rfl (fun _ => rfl) kb s]
  refine congrArg (Except.map · _) (funext fun down => ?_)
  cases down <;> rfl

/-- The word `ExA1` skips unless its key is down. -/
theorem result_execute_skipUnlessPressed (hw : w.hasForm "ExA1") (kb : Keyboard σ) (s : σ) :
    (e.execute kb w.toNat s).result = (kb.isPressed (e.keyOf w) s).1.map fun down =>
      if down then e.follow .next else e.follow .skip := by
  have hi : Instruction.ofWord? w = some (.skipUnlessPressed w.x) :=
    Instruction.ofWord?_eq_some_iff.2 ⟨hw, rfl⟩
  rw [result_execute_of_asks hi rfl (fun _ => rfl) kb s]
  refine congrArg (Except.map · _) (funext fun down => ?_)
  cases down <;> rfl

theorem follow_skip_ne_next (e : Engine) : (e.follow .skip).pc ≠ (e.follow .next).pc := by
  intro h
  have hpc : e.pc + 4 = e.pc + 2 := h
  exact absurd ((UInt16.add_right_inj e.pc).1 hpc) (by decide)

/-- **Keyboards matter only where they are asked.** -/
theorem keyboards_matter_where_asked (e : Engine) :
    (∀ turns : List (Turn × Turn),
      (∀ before t after x, turns = before ++ t :: after →
        e.through (before.map Prod.fst) = .ok x → x.Agree t.1 t.2) →
      ∀ n, e.through ((turns.take n).map Prod.fst) = e.through ((turns.take n).map Prod.snd)) ∧
    (∀ {σ : Type} (kb : Keyboard σ) (s : σ),
      (∀ elapsed, ∀ q ∈ (e.tick kb.recorded elapsed (s, [])).host.2, q.Proper) ∧
      ∀ code, ∀ q ∈ (e.execute kb.recorded code (s, [])).host.2, q.Proper) ∧
    (∀ (p : Keypad) (key : Int),
      (∀ elapsed, (e.tick Keypad.keyboard elapsed p).result ≠ .error (.keyRange key)) ∧
      ∀ code, (e.execute Keypad.keyboard code p).result ≠ .error (.keyRange key)) ∧
    ∀ w w' : Word, w.hasForm "Ex9E" → w'.hasForm "ExA1" → w.x = w'.x →
      ∀ {σ : Type} (kb : Keyboard σ) (s : σ),
        let down := (kb.isPressed (e.keyOf w) s).1
        (e.execute kb w.toNat s).result =
          down.map (fun b => if b then e.follow .skip else e.follow .next) ∧
        (e.execute kb w'.toNat s).result =
          down.map (fun b => if b then e.follow .next else e.follow .skip) ∧
        (e.follow .skip).pc ≠ (e.follow .next).pc := by
  refine ⟨fun turns h n => through_eq_of_agree h n,
    fun kb s => ⟨fun elapsed => ?_, fun code => ?_⟩,
    fun p key => ⟨fun elapsed h => ofEngine_of_tick p.answers h,
      fun code h => ofEngine_of_execute p.answers h⟩, ?_⟩
  · exact preserves_tick kb e elapsed (s, []) fun q hq => absurd hq List.not_mem_nil
  · exact preserves_execute kb e code (s, []) fun q hq => absurd hq List.not_mem_nil
  · intro w w' hw hw' hx σ kb s down
    have hkey : e.keyOf w = e.keyOf w' := by rw [keyOf, keyOf, hx]
    have hunless := result_execute_skipUnlessPressed (e := e) hw' kb s
    rw [← hkey] at hunless
    exact ⟨result_execute_skipIfPressed hw kb s, hunless, follow_skip_ne_next e⟩

/-- A wait that takes a key and a word that asks for it, on two keyboards that disagree on another
key. -/
theorem keyboards_matter_where_asked_of_held : ∃ (e e' : Engine) (held pad : Turn),
    held.pressed 12 = .ok false ∧ pad.pressed 12 = .ok true ∧ e.waiting = true ∧
    e.through [held, held] = .ok e' ∧ e.through [pad, pad] = .ok e' ∧
    e'.registers[(1 : Register)] = 11 ∧ e'.pc = e.pc + 4 := by
  let program : List UInt8 := [0xE1, 0x9E]
  obtain ⟨m, hm⟩ : ∃ m : Memory, m.word (0x200 : Nat) = .ok 0xE19E :=
    ⟨Memory.initial.overlay 0x200 program, Memory.word_overlay (k := 0) (by decide) (by decide)⟩
  let e : Engine := { machine.memory := m, waiting := true, keyRegister := 1 }
  let taken : Engine := { e with registers := e.registers.put 1 11, waiting := false }
  let skipped : Engine := { taken with pc := 0x204 }
  let held : Turn := ⟨HeldKey.keyboard, { key := some 11 }, none⟩
  let pad : Turn := ⟨Keypad.keyboard, (Keypad.set {} 11 true).set 12 true, none⟩
  have hkey : held.key = pad.key := rfl
  have hdown : held.pressed 11 = pad.pressed 11 := rfl
  have htakes : e.tickAt held = .ok taken := by
    rw [tickAt, result_tick_of_waiting rfl rfl]
    rfl
  have hskips : taken.tickAt held = .ok skipped := by
    have hf : taken.fetch = .ok 0xE19E := hm
    have hc : taken.countTimers none = .ok taken := rfl
    rw [tickAt, result_tick_of_running rfl rfl, hc, Except.ok_bind, hf]
    rfl
  have hthrough : e.through [held, held] = .ok skipped := by
    rw [through_cons, htakes, Except.ok_bind, through_singleton, hskips]
  have hagree : e.Agree held pad :=
    ⟨rfl, fun w hw => (by cases hw.not_waiting), fun _ _ => hkey⟩
  have hagree' : taken.Agree held pad := by
    refine ⟨rfl, fun w hw _ => ?_, fun _ hw => by cases hw⟩
    obtain rfl := Except.ok.inj (hm.symm.trans hw.fetches)
    exact hdown
  have hruns := (keyboards_matter_where_asked e).1 [(held, pad), (held, pad)]
    fun before t after x hturns => forall_of_pair
      (P := fun before t => e.through (before.map Prod.fst) = .ok x → x.Agree t.1 t.2)
      (fun hx => Except.ok.inj hx ▸ hagree)
      (fun hx => Except.ok.inj (htakes.symm.trans hx) ▸ hagree') before t after hturns
  refine ⟨e, skipped, held, pad, rfl, rfl, rfl, hthrough, (hruns 2).symm.trans hthrough, ?_, rfl⟩
  exact (Registers.getElem_put e.registers 1 1 11).trans (if_pos rfl)

end Engine

end Chip8
