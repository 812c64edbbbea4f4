import Chip8.Proofs.Form
import Chip8.Proofs.Turns

/-!
# Proofs/Dialects — two engines that differ in their dialects alone

Of two engines that differ in their dialects alone, one is the other with another dialect
(`Engine.withDialect`).  Only five instructions look at the dialect, and most of the time what they
find there makes no difference; `Engine.Sensitive` says where it does.  Everywhere else changing the
dialect and performing the instruction commute (`perform_withDialect`).  This passes on unchanged
from instructions to words, to ticks with all that they ask and say, and to runs.
-/

namespace Chip8

/-- Two conditions choose the same unless they differ and the choice matters. -/
theorem ite_eq_of_ne {α : Type} {b b' : Bool} {x y : α} (h : b ≠ b' → x = y) :
    (if b then x else y) = if b' then x else y := by
  by_cases hb : b = b'
  · rw [hb]
  · rw [h hb, ite_self, ite_self]

/-- Dialects compute the same unless they shift different registers with different bytes. -/
theorem Registers.operate_congr {v : Registers} {d d' : Dialect} {op : Operation} {x y : Register}
    (h : op.isShift → d.shiftUsesVy ≠ d'.shiftUsesVy → v[y] = v[x]) :
    v.operate d op x y = v.operate d' op x y := by
  have hoperand : (if op.isShift && d.shiftUsesVy then v[y] else v[x]) =
      if op.isShift && d'.shiftUsesVy then v[y] else v[x] := by
    refine ite_eq_of_ne fun hne => ?_
    cases hop : op.isShift with
    | false => simp [hop] at hne
    | true => exact h hop (by simpa [hop] using hne)
  simp only [operate, hoperand]

namespace Interaction

variable {σ α β γ δ : Type}

/-- Two operations that go on alike after a result go on alike if it is changed for the one. -/
theorem lift_map_bind {g : α → γ} {f : α → Interaction σ β} {f' : γ → Interaction σ δ} {h : β → δ}
    (x : Except Error α) (hf : ∀ a, x = .ok a → f' (g a) = h <$> f a) :
    ((liftM (x.map g) : Interaction σ γ) >>= f') = h <$> ((liftM x : Interaction σ α) >>= f) := by
  cases x with
  | error err => rfl
  | ok a => exact hf a rfl

/-- Two operations behind the same check correspond if they do so where it passes. -/
theorem liftFault_bind {f : α → Interaction σ β} {f' : α → Interaction σ δ} {h : β → δ}
    (x : Except Fault α) (hf : ∀ a, x = .ok a → f' a = h <$> f a) :
    ((liftM x : Interaction σ α) >>= f') = h <$> ((liftM x : Interaction σ α) >>= f) := by
  cases x with
  | error fault => rfl
  | ok a => exact hf a rfl

/-- To change a result is to change it before or after it is an interaction. -/
theorem liftFault_map (f : α → β) (x : Except Fault α) :
    (liftM (x.map f) : Interaction σ β) = f <$> (liftM x : Interaction σ α) := by
  cases x <;> rfl

end Interaction

namespace Engine

variable {σ : Type} {kb : Keyboard σ} {s : σ} {e : Engine} {d : Dialect} {w : Word}
  {i : Instruction} {elapsed : Option Double}

/-- The engine with another dialect. -/
def withDialect (e : Engine) (d : Dialect) : Engine := { e with config.dialect := d }

/-- That the dialect of an engine and another dialect have different opinions of a word.  A block of
registers that passes the end of memory is refused in every dialect. -/
def Differs (e : Engine) (d : Dialect) (w : Word) : Prop :=
  e.config.dialect.shiftUsesVy ≠ d.shiftUsesVy ∧
    w.hasFormIn ["8xy6", "8xyE"] ∧ e.registers[w.x] ≠ e.registers[w.y] ∨
  e.config.dialect.jumpUsesVx ≠ d.jumpUsesVx ∧
    w.hasForm "Bnnn" ∧ e.registers[w.x] ≠ e.registers[(0 : Register)] ∨
  e.config.dialect.loadStoreIncrementsI ≠ d.loadStoreIncrementsI ∧
    w.hasFormIn ["Fx55", "Fx65"] ∧ e.index.toNat + w.x + 1 ≤ 4096

/-! ## Instructions -/

/-- That it makes a difference for an instruction which of two dialects is spoken. -/
def Sensitive (e : Engine) (d : Dialect) : Instruction → Prop
  | .operate op x y => op.isShift ∧ e.config.dialect.shiftUsesVy ≠ d.shiftUsesVy ∧
    e.registers[x] ≠ e.registers[y]
  | .jumpFrom x _ => e.config.dialect.jumpUsesVx ≠ d.jumpUsesVx ∧
    e.registers[x] ≠ e.registers[(0 : Register)]
  | .storeRegisters x | .loadRegisters x =>
    e.config.dialect.loadStoreIncrementsI ≠ d.loadStoreIncrementsI ∧
      e.index.toNat + (x.val + 1) ≤ memorySize
  | _ => False

/-- Where dialects make a difference to an instruction, they differ on its word. -/
theorem differs_of_sensitive (hi : Instruction.ofWord? w = some i) (h : e.Sensitive d i) :
    e.Differs d w := by
  obtain ⟨hform, hoperands⟩ := Instruction.ofWord?_eq_some_iff.1 hi
  have hm : memorySize = 4096 := rfl
  cases i with
  | operate op x y =>
    obtain ⟨rfl, rfl⟩ := hoperands
    obtain ⟨hop, hd, hv⟩ := h
    refine .inl ⟨hd, Word.hasFormIn_of_mem hform ?_, hv⟩
    cases op with
    | shiftRight | shiftLeft => simp [Instruction.form, Operation.form]
    | _ => cases hop
  | jumpFrom x target =>
    obtain ⟨rfl, _⟩ := hoperands
    exact .inr (.inl ⟨h.1, hform, h.2⟩)
  | storeRegisters x | loadRegisters x =>
    obtain rfl := hoperands
    obtain ⟨hd, hfits⟩ := h
    exact .inr (.inr ⟨hd, Word.hasFormIn_of_mem hform (by simp [Instruction.form]), by omega⟩)
  | _ => exact h.elim

/-- The index behind a block depends on one quirk of the dialect. -/
theorem passBlock_withDialect
    (h : e.config.dialect.loadStoreIncrementsI = d.loadStoreIncrementsI) (x : Register) :
    (e.withDialect d).passBlock x = (e.passBlock x).withDialect d := by
  have hd : (e.withDialect d).config.dialect.loadStoreIncrementsI =
      e.config.dialect.loadStoreIncrementsI := h.symm
  unfold passBlock
  rw [hd]
  split <;> rfl

/-- A block of registers is passed alike wherever it can be accessed at all. -/
theorem map_passBlock {α : Type} (access : Except Fault α) (after : α → Engine) {x : Register}
    (hconfig : ∀ a, (after a).config = e.config)
    (hagree : ∀ a, access = .ok a →
      e.config.dialect.loadStoreIncrementsI = d.loadStoreIncrementsI) :
    (access >>= fun a => pure (((after a).withDialect d).passBlock x, Flow.next)) =
      (access >>= fun a => pure ((after a).passBlock x, Flow.next)).map
        fun (after, flow) => (after.withDialect d, flow) := by
  cases haccess : access with
  | error fault => rfl
  | ok a =>
    have hagree' := hagree a haccess
    rw [← hconfig a] at hagree'
    rw [Except.ok_bind, passBlock_withDialect hagree']
    rfl

/-- **An instruction that is not sensitive** does the same in both dialects. -/
theorem perform_withDialect (h : ¬ e.Sensitive d i) (pressed : Bool) :
    (e.withDialect d).perform pressed i =
      (e.perform pressed i).map fun (after, flow) => (after.withDialect d, flow) := by
  -- The first four can fail but do not look at the dialect; the next four look at it.
  cases i with
  | ret =>
    simp only [perform, withDialect]
    cases e.machine.pop <;> rfl
  | call target =>
    simp only [perform, withDialect]
    cases e.machine.push e.pc.toNat <;> rfl
  | draw x y height =>
    simp only [perform, withDialect]
    cases e.machine.read e.index.toNat height.val <;> rfl
  | storeDecimal x =>
    simp only [perform, withDialect]
    cases e.machine.write e.index.toNat (decimalDigits e.registers[x]) <;> rfl
  | operate op x y =>
    have hsame : e.registers.operate d op x y =
        e.registers.operate e.config.dialect op x y :=
      Registers.operate_congr fun hop hd =>
        Decidable.byContradiction fun hv => h ⟨hop, hd.symm, Ne.symm hv⟩
    simp only [perform, withDialect, hsame]
    rfl
  | jumpFrom x target =>
    have hsame : e.registers[if d.jumpUsesVx then x else 0] =
        e.registers[if e.config.dialect.jumpUsesVx then x else 0] := by
      rw [apply_ite (e.registers[·]), apply_ite (e.registers[·])]
      exact ite_eq_of_ne fun hd => Decidable.byContradiction fun hv => h ⟨hd.symm, hv⟩
    have hjump : (e.withDialect d).perform pressed (.jumpFrom x target) =
        .ok (e.withDialect d,
          .jump (target.val + e.registers[if d.jumpUsesVx then x else 0].toNat)) := rfl
    rw [hjump, hsame]
    rfl
  | storeRegisters x =>
    refine map_passBlock (e.machine.write e.index.toNat (e.registers.block x))
      (fun machine => { e with machine }) (fun _ => rfl) fun machine hwrite => ?_
    have hfits := (Machine.write_eq_ok_iff.1 hwrite).1
    rw [Registers.length_block] at hfits
    exact Decidable.byContradiction fun hd => h ⟨hd, hfits⟩
  | loadRegisters x =>
    refine map_passBlock (e.machine.read e.index.toNat (x.val + 1 : Nat))
      (fun bytes => { e with registers := e.registers.overlay bytes }) (fun _ => rfl)
      fun bytes hread => ?_
    have hfits := (Machine.read_eq_ok_iff.1 hread).1
    exact Decidable.byContradiction fun hd => h ⟨hd, hfits⟩
  | _ => rfl

/-! ## Words -/

theorem keyAsked_withDialect (e : Engine) (d : Dialect) (i : Instruction) :
    (e.withDialect d).keyAsked i = e.keyAsked i := by
  cases i <;> rfl

theorem proceed_withDialect (e : Engine) (d : Dialect) (flow : Flow) :
    ((e.withDialect d).proceed flow : Interaction σ Engine) =
      (·.withDialect d) <$> e.proceed flow := by
  have hfollow : (e.withDialect d).follow flow = (e.follow flow).withDialect d := by
    cases flow <;> rfl
  rw [proceed, proceed, map_bind, hfollow]
  rfl

/-- **An instruction that is not sensitive** is executed in both dialects alike. -/
theorem executeInstruction_withDialect (h : ¬ e.Sensitive d i) :
    (e.withDialect d).executeInstruction kb i =
      (·.withDialect d) <$> e.executeInstruction kb i := by
  simp only [executeInstruction, keyAsked_withDialect, perform_withDialect h,
    Interaction.liftFault_map, bind_map_left, proceed_withDialect]
  cases e.keyAsked i with
  | none => simp only [map_bind]
  | some key => simp only [map_bind]

/-- A word on which the dialects do not differ is executed in both alike. -/
theorem executeWord_withDialect (h : ¬ e.Differs d w) :
    (e.withDialect d).executeWord kb w = (·.withDialect d) <$> e.executeWord kb w := by
  rw [executeWord, executeWord]
  cases hi : Instruction.ofWord? w with
  | none => rfl
  | some i =>
    exact executeInstruction_withDialect fun hsensitive => h (differs_of_sensitive hi hsensitive)

/-! ## Ticks -/

/-- Timers count alike in all dialects. -/
theorem countTimers_withDialect (e : Engine) (d : Dialect) (elapsed : Option Double) :
    (e.withDialect d).countTimers elapsed = (e.countTimers elapsed).map (·.withDialect d) := by
  simp only [countTimers, withDialect]
  cases e.timers.advance e.config.timerMode e.config.timerFrequency elapsed <;> rfl

theorem countWhileWaiting_withDialect (e : Engine) (d : Dialect) (elapsed : Option Double) :
    (e.withDialect d).countWhileWaiting elapsed =
      (e.countWhileWaiting elapsed).map (·.withDialect d) := by
  have hruns : (e.withDialect d).config.timersRunWhileWaiting = e.config.timersRunWhileWaiting :=
    rfl
  unfold countWhileWaiting
  rw [hruns]
  split
  · exact countTimers_withDialect e d elapsed
  · rfl

theorem resolveWait_withDialect (e : Engine) (d : Dialect) :
    (e.withDialect d).resolveWait kb = (·.withDialect d) <$> e.resolveWait kb := by
  rw [resolveWait, resolveWait, map_bind]
  refine bind_congr fun key => ?_
  cases key with
  | none => rfl
  | some k =>
    simp only [map_bind]
    rfl

/-- **A tick does the same in both dialects** unless it executes a word of which they have different
opinions. -/
theorem tick_withDialect (h : ∀ w, e.ExecutesAt elapsed w → ¬ e.Differs d w) :
    (e.withDialect d).tick kb elapsed = (·.withDialect d) <$> e.tick kb elapsed := by
  cases hh : e.halted with
  | true =>
    have hh' : (e.withDialect d).halted = true := hh
    rw [tick_of_halted hh, tick_of_halted hh', map_pure]
  | false =>
    have hh' : (e.withDialect d).halted = false := hh
    cases hw : e.waiting with
    | true =>
      have hw' : (e.withDialect d).waiting = true := hw
      rw [tick_of_waiting hh hw, tick_of_waiting hh' hw', countWhileWaiting_withDialect]
      exact Interaction.lift_map_bind _ fun counted _ => resolveWait_withDialect counted d
    | false =>
      have hw' : (e.withDialect d).waiting = false := hw
      rw [tick_of_running hh hw, tick_of_running hh' hw', countTimers_withDialect]
      refine Interaction.lift_map_bind _ fun counted hc => ?_
      refine Interaction.liftFault_bind counted.fetch fun w hf => ?_
      obtain ⟨timers, _, rfl⟩ := countTimers_eq_ok_iff.1 hc
      exact executeWord_withDialect (h w ⟨⟨hh, hw, hf⟩, _, hc⟩)

/-- **A run that meets no word on which the dialects differ** is the same run in both. -/
theorem through_withDialect {turns : List Turn}
    (h : ∀ before t after x w, turns = before ++ t :: after → e.through before = .ok x →
      x.ExecutesAt t.elapsed w → ¬ x.Differs d w) (n : Nat) :
    (e.withDialect d).through (turns.take n) =
      (e.through (turns.take n)).map (·.withDialect d) := by
  have hcarries : Carries (·.withDialect d) id id e turns := by
    intro before t after x hturns hx
    rw [List.map_id] at hx
    unfold tickAt
    rw [id_eq, tick_withDialect fun w => h before t after x w hturns hx, Interaction.result_map]
  have hmap := through_map (hcarries.take n)
  rwa [List.map_id] at hmap

/-- **Two engines that differ in their dialects alone** tick alike, and go through any turns alike
for as long as they execute no word of which their dialects have different opinions. -/
theorem dialects_agree (e : Engine) (d : Dialect) :
    (∀ {σ : Type} (kb : Keyboard σ) (elapsed : Option Double),
      (∀ w, e.ExecutesAt elapsed w → ¬ e.Differs d w) →
        (e.withDialect d).tick kb elapsed = (·.withDialect d) <$> e.tick kb elapsed) ∧
    ∀ turns : List Turn,
      (∀ before t after x w, turns = before ++ t :: after → e.through before = .ok x →
        x.ExecutesAt t.elapsed w → ¬ x.Differs d w) →
      ∀ n, (e.withDialect d).through (turns.take n) =
        (e.through (turns.take n)).map (·.withDialect d) :=
  ⟨fun _ _ => tick_withDialect, fun _ => through_withDialect⟩

/-- A shift of registers that hold the same, and a block that passes the end of memory. -/
theorem dialects_agree_of_program : ∃ (e middle : Engine) (d : Dialect) (t : Turn),
    e.config.dialect = {} ∧ d = ⟨true, true, true⟩ ∧ e.through [t] = .ok middle ∧
    middle.registers[(1 : Register)] = 4 ∧
    (e.withDialect d).through [t] = .ok (middle.withDialect d) ∧
    (e.withDialect d).through [t, t] = .error (.fault (.outOfBounds 0xFFF 2)) := by
  let program : List UInt8 := [0x81, 0x26, 0xF1, 0x55]
  obtain ⟨m, h₀, h₂⟩ : ∃ m : Memory, m.word (0x200 : Nat) = .ok 0x8126 ∧
      m.word (0x202 : Nat) = .ok 0xF155 :=
    ⟨Memory.initial.overlay 0x200 program, Memory.word_overlay (k := 0) (by decide) (by decide),
      Memory.word_overlay (k := 2) (by decide) (by decide)⟩
  let same : Registers := Registers.put (.put (.replicate 16 0) 1 9) 2 9
  let e : Engine := { machine.memory := m, registers := same, index := 0xFFF }
  let middle : Engine := { e with registers := same.operate {} .shiftRight 1 2, pc := 0x202 }
  let d : Dialect := ⟨true, true, true⟩
  let t : Turn := ⟨HeldKey.keyboard, { key := none }, none⟩
  have hfirst : e.tickAt t = .ok middle := by
    have hf : e.fetch = .ok 0x8126 := h₀
    have hc : e.countTimers none = .ok e := rfl
    rw [tickAt, result_tick_of_running rfl rfl, hc, Except.ok_bind, hf]
    rfl
  have hsecond : middle.tickAt t = .error (.fault (.outOfBounds 0xFFF 2)) := by
    have hf : middle.fetch = .ok 0xF155 := h₂
    have hc : middle.countTimers none = .ok middle := rfl
    rw [tickAt, result_tick_of_running rfl rfl, hc, Except.ok_bind, hf, Except.mapError_ok,
      Except.ok_bind]
    have hrefusal : middle.refusal (.storeRegisters 1) = some (.outOfBounds 0xFFF 2) := by
      simp [refusal, blockFault, memorySize, middle, e]
    exact executeWord_eq_error_iff.2
      (.inr ⟨.storeRegisters 1, rfl, .inr ⟨false, _, rfl, hrefusal, rfl⟩⟩)
  have hone : e.through [t] = .ok middle := by rw [through_singleton, hfirst]
  have htwo : e.through [t, t] = .error (.fault (.outOfBounds 0xFFF 2)) := by
    rw [through_cons, hfirst, Except.ok_bind, through_singleton, hsecond]
  have hsame (w : Word) (hx : e.ExecutesAt none w) : ¬ e.Differs d w := by
    obtain rfl := Except.ok.inj (h₀.symm.trans hx.fetches)
    rintro (⟨_, _, h⟩ | ⟨_, h, _⟩ | ⟨_, h, _⟩)
    · exact h rfl
    · exact absurd h (by decide)
    · exact absurd h (by decide)
  have hpassed (w : Word) (hx : middle.ExecutesAt none w) : ¬ middle.Differs d w := by
    obtain rfl := Except.ok.inj (h₂.symm.trans hx.fetches)
    rintro (⟨_, h, _⟩ | ⟨_, h, _⟩ | ⟨_, _, h⟩)
    · exact absurd h (by decide)
    · exact absurd h (by decide)
    · exact absurd (show 0xFFF + 1 + 1 ≤ 4096 from h) (by decide)
  have hruns := (dialects_agree e d).2 [t, t] fun before t after x w hturns => forall_of_pair
    (P := fun before t => e.through before = .ok x → x.ExecutesAt t.elapsed w → ¬ x.Differs d w)
    (fun hx => Except.ok.inj hx ▸ hsame w)
    (fun hx => Except.ok.inj (hone.symm.trans hx) ▸ hpassed w) before t after hturns
  have hshift : (same.operate {} .shiftRight 1 2)[(1 : Register)] = 4 := by decide
  refine ⟨e, middle, d, t, rfl, rfl, hone, hshift, ?_, ?_⟩
  · exact (hruns 1).trans (congrArg _ hone)
  · exact (hruns 2).trans (congrArg _ htwo)

end Engine

end Chip8
