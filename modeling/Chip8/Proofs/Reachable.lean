import Chip8.Display.Frame
import Chip8.Proofs.Control

/-!
# Proofs/Reachable — what holds of every engine that a host can bring about

A host starts an engine with a random key and a configuration.  From then on it ticks, loads
programs, starts the engine over and takes pictures, in any order (`Step`, `Reachable`).  Nothing is
assumed of the programs, and the keyboards and clocks may change from tick to tick.

The invariant is `Sound`.  Its parts depend on each other: the program counter is bounded because a
word is only fetched from within memory and because the frames that returns take are bounded; the
frames are bounded because a call was fetched too.  The result is `reachable_bounds`.
-/

namespace Chip8

namespace Engine

variable {σ : Type} {kb : Keyboard σ} {s : σ} {e e' : Engine} {w : Word} {i : Instruction}
  {elapsed : Option Double}

/-- That a successful tick, with some keyboard and some clock, leads from an engine to another. -/
def Ticks (e e' : Engine) : Prop :=
  ∃ (σ : Type) (kb : Keyboard σ) (elapsed : Option Double) (s : σ),
    (e.tick kb elapsed s).result = .ok e'

/-- What a host can do with an engine. -/
inductive Step (e : Engine) : Engine → Prop
  | tick {e' : Engine} (h : Ticks e e') : Step e e'
  | load {σ : Type} {s : σ} {program : List UInt8} {e' : Engine}
      (h : (e.load program s).result = .ok e') : Step e e'
  | reset : Step e e.reset
  | render {room : Room} {scale : Int} {scheme : String} {e' : Engine} {frame : Option Frame}
      (h : e.renderIfDirty room scale scheme = .ok (e', frame)) : Step e e'

/-- The engines that a host can bring about. -/
inductive Reachable : Engine → Prop
  | start (random : RandomKey) (config : Config) : Reachable { random, config }
  | step {e e' : Engine} (he : Reachable e) (h : Step e e') : Reachable e'

/-- A word that is fetched and executed makes a tick. -/
theorem ticks_of_fetch {w : Word} (hh : e.halted = false) (hw : e.waiting = false)
    (hm : e.config.timerMode = .perTick) (hf : e.fetch = .ok w)
    (he : ({ e with timers := e.timers.lower 1 }.executeWord HeldKey.keyboard w
      { key := none }).result = .ok e') : Ticks e e' := by
  have hc : e.countTimers none = .ok { e with timers := e.timers.lower 1 } := by
    rw [countTimers, hm]
    rfl
  exact ⟨HeldKey, HeldKey.keyboard, none, { key := none },
    tick_eq_ok_iff.2 (.executed hh hw hc hf he)⟩

/-! ## The steps that execute nothing -/

theorem result_load (e : Engine) (program : List UInt8) (s : σ) :
    (e.load program s).result = (e.withProgram program).mapError .fault := by
  rw [load, Interaction.result_bind, Interaction.liftFault_apply]
  cases e.withProgram program <;> rfl

theorem eq_of_load {program : List UInt8} (h : (e.load program s).result = .ok e') :
    ∃ memory, e' = { e with machine.memory := memory } := by
  rw [result_load, Except.mapError_eq_ok_iff] at h
  obtain ⟨machine, hm, rfl⟩ := Except.map_eq_ok_iff.1 h
  obtain ⟨memory, _, rfl⟩ := Except.map_eq_ok_iff.1 hm
  exact ⟨memory, rfl⟩

/-- A rendering takes the mark off, and changes nothing besides. -/
theorem eq_of_renderIfDirty {room : Room} {scale : Int} {scheme : String} {frame : Option Frame}
    (h : e.renderIfDirty room scale scheme = .ok (e', frame)) :
    ∃ dirty, e' = { e with machine.dirty := dirty } := by
  unfold renderIfDirty at h
  split at h
  · obtain ⟨palette, _, h⟩ := Except.bind_eq_ok_iff.1 h
    obtain ⟨picture, _, h⟩ := Except.bind_eq_ok_iff.1 h
    cases h
    exact ⟨false, rfl⟩
  · cases h
    exact ⟨e.machine.dirty, rfl⟩

/-! ## The invariant -/

/-- What is preserved by every step. -/
structure Sound (e : Engine) : Prop where
  /-- The farthest that a jump with offset leads. -/
  pc_le : e.pc.toNat ≤ 0xFFF + 0xFF
  tidy : e.machine.stack.Tidy
  /-- Calls are fetched from whole words of memory. -/
  frame_le : ∀ frame ∈ e.machine.stack.frames, frame.toNat ≤ 0xFFE
  keyRegister_mem : 0 ≤ e.keyRegister ∧ e.keyRegister < 16
  not_both : ¬ (e.halted ∧ e.waiting)

theorem sound_start (random : RandomKey) (config : Config) : Sound { random, config } where
  pc_le := Nat.le_of_ble_eq_true rfl
  tidy := CallStack.ofFrames_nil
  frame_le _ hframe := by simp [CallStack.frames] at hframe
  keyRegister_mem := ⟨Int.le_refl 0, (by decide : (0 : Int) < 16)⟩
  not_both h := nomatch h.1

/-- What is fetched stands inside the memory as a whole. -/
theorem pc_le_of_fetch (h : e.fetch = .ok w) : e.pc.toNat ≤ 0xFFE := by
  have hpc := (Memory.word_eq_ok_iff.1 h).1
  have hm : memorySize = 4096 := rfl
  omega

/-- Twelve bits hold every address that a call can be fetched from. -/
theorem frameOf_pc_of_fetch (h : e.fetch = .ok w) : CallStack.frameOf e.pc.toNat = e.pc := by
  have hpc := pc_le_of_fetch h
  have hm : memorySize = 4096 := rfl
  refine UInt16.toNat_inj.1 ?_
  rw [CallStack.frameOf, hm, UInt16.toNat_ofNat']
  omega

/-- The register of a wait is the one it was, or a register of the word. -/
theorem keyRegister_of_executeWord (h : (e.executeWord kb w s).result = .ok e') :
    e'.keyRegister = e.keyRegister ∨ ∃ x : Register, e'.keyRegister = x.val := by
  obtain ⟨i, pressed, after, flow, hi, _, hperform, rfl⟩ := executeWord_eq_ok_iff.1 h
  by_cases hkey : .keyRegister ∈ e.writes i
  · obtain ⟨x, rfl⟩ := keyRegister_mem_writes.1 hkey
    cases hperform
    exact .inr ⟨x, rfl⟩
  · exact .inl (executeWord_same (p := .keyRegister) h hi hkey)

/-- No word leaves an engine both halted and waiting. -/
theorem not_both_of_executeWord (h : (e.executeWord kb w s).result = .ok e')
    (hh : e.halted = false) (hw : e.waiting = false) : ¬ (e'.halted ∧ e'.waiting) := by
  obtain ⟨i, _, _, _, hi, _, _, _⟩ := executeWord_eq_ok_iff.1 h
  rintro ⟨hh', hw'⟩
  by_cases hhalt : .halted ∈ e.writes i
  · obtain rfl := halted_mem_writes.1 hhalt
    have hsame := executeWord_same (p := .waiting) h hi (by simp [writes])
    exact Bool.false_ne_true ((hw.symm.trans hsame.symm).trans hw')
  · have hsame := executeWord_same (p := .halted) h hi hhalt
    exact Bool.false_ne_true ((hh.symm.trans hsame.symm).trans hh')

/-- From any place that jumps lead to, two words further is reached without wrapping. -/
theorem toNat_add_of_le {pc : Word} (hpc : pc.toNat ≤ 0xFFF + 0xFF) :
    (pc + 2).toNat = pc.toNat + 2 ∧ (pc + 4).toNat = pc.toNat + 4 := by
  rw [UInt16.toNat_add, UInt16.toNat_add]
  exact ⟨Nat.mod_eq_of_lt (by simp; omega), Nat.mod_eq_of_lt (by simp; omega)⟩

/-- The three parts of the invariant that transfers of control depend on. -/
theorem Sound.transfer (he : e.Sound) (hf : e.fetch = .ok w) (h : Transfer e e') :
    e'.pc.toNat ≤ 0xFFF + 0xFF ∧ e'.machine.stack.Tidy ∧
      ∀ frame ∈ e'.machine.stack.frames, frame.toNat ≤ 0xFFE := by
  have hpc := pc_le_of_fetch hf
  cases h with
  | call push pc_le =>
    obtain ⟨htidy, hframes⟩ := he.tidy.push push
    rw [frameOf_pc_of_fetch hf] at hframes
    refine ⟨by omega, htidy, fun frame hframe => ?_⟩
    rw [hframes] at hframe
    obtain hframe | hframe := List.mem_append.1 hframe
    · exact he.frame_le frame hframe
    · rw [List.mem_singleton.1 hframe]
      exact hpc
  | @ret frame pop pc_eq =>
    obtain ⟨htidy, hframes⟩ := he.tidy.pop pop
    have hframe : frame.toNat ≤ 0xFFE := he.frame_le frame (by simp [hframes])
    have hsum : (frame + 2).toNat = frame.toNat + 2 := (toNat_add_of_le (by omega)).1
    refine ⟨by rw [pc_eq]; omega, htidy, fun other hother => ?_⟩
    exact he.frame_le other (by simp [hframes, hother])
  | stay stack_eq pc_cases =>
    obtain ⟨hnext, hskip⟩ := toNat_add_of_le he.pc_le
    rw [stack_eq]
    refine ⟨?_, he.tidy, he.frame_le⟩
    obtain hpc' | hpc' | hpc' | hpc' := pc_cases
    · rw [hpc']
      omega
    · rw [hpc']
      omega
    · rw [hpc']
      omega
    · exact hpc'

/-- **A word keeps an engine sound.** -/
theorem Sound.executeWord (he : e.Sound) (hh : e.halted = false) (hw : e.waiting = false)
    (hf : e.fetch = .ok w) (h : (e.executeWord kb w s).result = .ok e') : e'.Sound := by
  obtain ⟨pc_le, tidy, frame_le⟩ := he.transfer hf (transfer_of_executeWord h)
  refine ⟨pc_le, tidy, frame_le, ?_, not_both_of_executeWord h hh hw⟩
  obtain hkey | ⟨x, hkey⟩ := keyRegister_of_executeWord h
  · rw [hkey]
    exact he.keyRegister_mem
  · rw [hkey]
    omega

theorem Sound.ticks (he : e.Sound) (h : Ticks e e') : e'.Sound := by
  obtain ⟨σ, kb, elapsed, s, h⟩ := h
  cases tick_eq_ok_iff.1 h with
  | rested hh => exact he
  | polled hh hw hc hr =>
    obtain ⟨timers, registers, waiting, rfl⟩ := eq_of_polled hc hr
    exact { he with not_both := fun hboth => by simp [hh] at hboth }
  | executed hh hw hc hf hexecute =>
    obtain ⟨timers, _, rfl⟩ := countTimers_eq_ok_iff.1 hc
    have hcounted : Sound { e with timers } := { he with }
    exact hcounted.executeWord hh hw hf hexecute

/-- **Every step keeps an engine sound**, be it a tick, a load, a reset or a rendering. -/
theorem Sound.step (he : e.Sound) (h : Step e e') : e'.Sound := by
  cases h with
  | tick h => exact he.ticks h
  | load h =>
    obtain ⟨memory, rfl⟩ := eq_of_load h
    exact { he with }
  | reset => exact sound_start e.random e.config
  | render h =>
    obtain ⟨dirty, rfl⟩ := eq_of_renderIfDirty h
    exact { he with }

/-- Every engine that is reached is sound. -/
theorem Reachable.sound (h : Reachable e) : e.Sound := by
  induction h with
  | start random config => exact sound_start random config
  | step _ h ih => exact ih.step h

/-- **Bounds of every reachable engine.**  The program counter stays so low that the next two words
are found without wrapping around; the call stack holds at most sixteen frames, each of them the
address of a whole word; the register that awaits a key exists; and a halted engine awaits none. -/
theorem reachable_bounds (h : Reachable e) :
    (e.pc.toNat ≤ 0x10FE ∧ (e.pc + 2).toNat = e.pc.toNat + 2 ∧
      (e.pc + 4).toNat = e.pc.toNat + 4) ∧
    (e.machine.stack.depth ≤ 16 ∧ e.machine.stack.frames.length = e.machine.stack.depth ∧
      ∀ frame ∈ e.machine.stack.frames, frame.toNat ≤ 0xFFE) ∧
    (0 ≤ e.keyRegister ∧ e.keyRegister < 16) ∧ ¬ (e.halted ∧ e.waiting) :=
  have he := h.sound
  ⟨⟨he.pc_le, toNat_add_of_le he.pc_le⟩, ⟨he.tidy.depth_le, he.tidy.length_frames, he.frame_le⟩,
    he.keyRegister_mem, he.not_both⟩

/-- A program that calls a subroutine, which waits for a key. -/
theorem reachable_bounds_of_call : ∃ e : Engine, Reachable e ∧
    (e.machine.stack.frames = [0x200] ∧ e.waiting = true ∧ e.keyRegister = 5) ∧
    (e.pc.toNat ≤ 0x10FE ∧ (e.pc + 2).toNat = e.pc.toNat + 2 ∧
      (e.pc + 4).toNat = e.pc.toNat + 4) ∧
    (e.machine.stack.depth ≤ 16 ∧ e.machine.stack.frames.length = e.machine.stack.depth ∧
      ∀ frame ∈ e.machine.stack.frames, frame.toNat ≤ 0xFFE) ∧
    (0 ≤ e.keyRegister ∧ e.keyRegister < 16) ∧ ¬ (e.halted ∧ e.waiting) := by
  let program : List UInt8 := [0x22, 0x04, 0x00, 0x00, 0xF5, 0x0A]
  obtain ⟨m, hload, h₀, h₄⟩ : ∃ m : Memory, Memory.initial.load program = .ok m ∧
      m.word (0x200 : Nat) = .ok 0x2204 ∧ m.word (0x204 : Nat) = .ok 0xF50A :=
    ⟨_, rfl, Memory.word_overlay (k := 0) (by decide) (by decide),
      Memory.word_overlay (k := 4) (by decide) (by decide)⟩
  have hloaded : (({} : Engine).load program ()).result = .ok { machine.memory := m } := by
    rw [result_load, withProgram, Machine.load, hload]
    rfl
  let inside : Engine := { machine := { memory := m, stack := .ofFrames [0x200] }, pc := 0x204 }
  let waits : Engine := { inside with waiting := true, keyRegister := 5, pc := 0x206 }
  have hcall : Ticks { machine.memory := m } inside := ticks_of_fetch rfl rfl rfl h₀ rfl
  have hwait : Ticks inside waits := ticks_of_fetch rfl rfl rfl h₄ rfl
  have h : Reachable waits :=
    (((Reachable.start {} {}).step (.load hloaded)).step (.tick hcall)).step (.tick hwait)
  exact ⟨waits, h, ⟨rfl, rfl, rfl⟩, reachable_bounds h⟩

end Engine

end Chip8
