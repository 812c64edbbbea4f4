import Chip8.Proofs.Reachable

/-!
# Proofs/Subroutine — a call returns to where it came from

A call pushes the program counter.  Whatever runs between the call and its return — any program,
also one that rewrites itself or is loaded meanwhile — the frames under the call and the frame of
the call itself stay where they are as long as the call stack stays that deep (`RunsAbove`).  So the
tick that takes the stack back to its depth before the call finds the frame of the call on top:
`return_from_call`.
-/

namespace Chip8

namespace Engine

variable {e e' : Engine} {s t u : Engine} {depth : Nat}

/-- That a tick executes a call. -/
structure Calls (e e' : Engine) : Prop where
  not_halted : e.halted = false
  not_waiting : e.waiting = false
  fetches : ∃ w : Word, e.fetch = .ok w ∧ w.hasForm "2nnn"
  ticks : Ticks e e'

/-- That steps lead from an engine to another, after each of which the call stack is deeper than
`depth`. -/
inductive RunsAbove (depth : Nat) (e : Engine) : Engine → Prop
  | refl : RunsAbove depth e e
  | step {e' e'' : Engine} (run : RunsAbove depth e e') (last : Step e' e'')
      (deep : depth < e''.machine.stack.depth) : RunsAbove depth e e''

theorem Reachable.runsAbove (he : Reachable e) (h : RunsAbove depth e e') : Reachable e' := by
  induction h with
  | refl => exact he
  | step _ last _ ih => exact .step ih last

/-- **A call leaves its own address** on top of the frames. -/
theorem Calls.frames_eq (hs : Reachable s) (h : Calls s t) :
    t.machine.stack.frames = s.machine.stack.frames ++ [s.pc] := by
  obtain ⟨w, hfetch, hform⟩ := h.fetches
  obtain ⟨σ, kb, elapsed, host, htick⟩ := h.ticks
  cases tick_eq_ok_iff.1 htick with
  | rested hh => cases hh.symm.trans h.not_halted
  | polled _ hw _ _ => cases hw.symm.trans h.not_waiting
  | executed _ _ hc hf hexecute =>
    obtain ⟨timers, _, rfl⟩ := countTimers_eq_ok_iff.1 hc
    obtain rfl := Except.ok.inj (hfetch.symm.trans hf)
    have hpush := push_of_executeWord hexecute hform
    rw [(hs.sound.tidy.push hpush).2]
    exact congrArg (s.machine.stack.frames ++ [·]) (frameOf_pc_of_fetch hfetch)

/-! ## What happens to the frames meanwhile -/

theorem Ticks.transfer (h : Ticks e e') : Transfer e e' := by
  obtain ⟨σ, kb, elapsed, host, h⟩ := h
  cases tick_eq_ok_iff.1 h with
  | rested hh => exact .stay rfl (.inl rfl)
  | polled hh hw hc hr =>
    obtain ⟨timers, registers, waiting, rfl⟩ := eq_of_polled hc hr
    exact .stay rfl (.inl rfl)
  | executed hh hw hc hf hexecute =>
    obtain ⟨timers, _, rfl⟩ := countTimers_eq_ok_iff.1 hc
    cases transfer_of_executeWord hexecute with
    | call push pc_le => exact .call push pc_le
    | ret pop pc_eq => exact .ret pop pc_eq
    | stay stack_eq pc_cases => exact .stay stack_eq pc_cases

/-- The lowest frames stay where they are if the stack stays as deep as they reach. -/
theorem prefix_of_transfer {fs : List Word} (he : e.Sound) (h : Transfer e e')
    (hfs : fs <+: e.machine.stack.frames) (hdepth : fs.length ≤ e'.machine.stack.depth) :
    fs <+: e'.machine.stack.frames := by
  cases h with
  | call push _ =>
    rw [(he.tidy.push push).2]
    exact hfs.trans (List.prefix_append _ _)
  | ret pop _ =>
    obtain ⟨htidy, hframes⟩ := he.tidy.pop pop
    rw [hframes] at hfs
    refine List.prefix_of_prefix_length_le hfs (List.prefix_append _ _) ?_
    rwa [htidy.length_frames]
  | stay stack_eq _ => rwa [stack_eq]

/-- So for every step, whatever it does besides. -/
theorem prefix_of_step {fs : List Word} (he : e.Sound) (h : Step e e')
    (hfs : fs <+: e.machine.stack.frames) (hdepth : fs.length ≤ e'.machine.stack.depth) :
    fs <+: e'.machine.stack.frames := by
  cases h with
  | tick h => exact prefix_of_transfer he h.transfer hfs hdepth
  | load h =>
    obtain ⟨memory, rfl⟩ := eq_of_load h
    exact hfs
  | reset =>
    -- a stack that is as deep as nothing has no frames to keep
    obtain rfl : fs = [] := List.length_eq_zero_iff.1 (Nat.le_zero.1 hdepth)
    exact List.nil_prefix
  | render h =>
    obtain ⟨dirty, rfl⟩ := eq_of_renderIfDirty h
    exact hfs

/-- What a run above a depth keeps: the frames up to that depth, and one more. -/
theorem RunsAbove.prefix_frames {fs : List Word} (he : Reachable e) (h : RunsAbove depth e e')
    (hfs : fs <+: e.machine.stack.frames) (hlength : fs.length = depth + 1) :
    fs <+: e'.machine.stack.frames := by
  induction h with
  | refl => exact hfs
  | step run last deep ih =>
    exact prefix_of_step (he.runsAbove run).sound last ih (hlength ▸ deep)

/-- A tick that takes the stack back below a frame returns to behind it. -/
theorem return_of_ticks {fs : List Word} {frame : Word} (he : e.Sound) (h : Ticks e e')
    (hfs : fs ++ [frame] <+: e.machine.stack.frames)
    (hdepth : e'.machine.stack.depth = fs.length) :
    e'.pc = frame + 2 ∧ e'.machine.stack.Tidy ∧ e'.machine.stack.frames = fs := by
  have hlong := hfs.length_le
  rw [List.length_append, List.length_singleton, he.tidy.length_frames] at hlong
  cases h.transfer with
  | call push _ =>
    -- a further call makes the stack deeper still
    obtain ⟨htidy, hframes⟩ := he.tidy.push push
    have hlength := congrArg List.length hframes
    rw [List.length_append, List.length_singleton, he.tidy.length_frames,
      htidy.length_frames] at hlength
    omega
  | @ret top pop pc_eq =>
    -- the frame taken is the last of a stack of just this depth
    obtain ⟨htidy, hframes⟩ := he.tidy.pop pop
    have hlength : (fs ++ [frame]).length = (e'.machine.stack.frames ++ [top]).length := by
      rw [List.length_append, List.length_append, htidy.length_frames, hdepth]
      rfl
    rw [hframes] at hfs
    obtain ⟨hframes', htop⟩ := List.append_inj' (hfs.eq_of_length hlength) rfl
    obtain rfl := List.singleton_inj.1 htop
    exact ⟨pc_eq, htidy, hframes'.symm⟩
  | stay stack_eq _ =>
    rw [stack_eq] at hdepth
    omega

/-- **A call returns to behind itself.**  If a tick executes a call, and later, after a run that
stays inside the call, a tick brings the call stack back to its depth before the call, then
execution goes on behind the call and the call stack, with all its entries, is the one before the
call.  Nothing of the return address is lost when it is pushed, and inside the call the frames under
it and its own frame are never touched. -/
theorem return_from_call (hs : Reachable s) (hcall : Calls s t)
    (hrun : RunsAbove s.machine.stack.depth t u) (hticks : Ticks u e)
    (hdepth : e.machine.stack.depth = s.machine.stack.depth) :
    e.pc.toNat = s.pc.toNat + 2 ∧ e.machine.stack = s.machine.stack ∧
      CallStack.frameOf s.pc.toNat = s.pc ∧
      s.machine.stack.frames ++ [s.pc] <+: u.machine.stack.frames := by
  obtain ⟨w, hfetch, _⟩ := hcall.fetches
  have hpc := pc_le_of_fetch hfetch
  have ht : Reachable t := hs.step (.tick hcall.ticks)
  have hlength : (s.machine.stack.frames ++ [s.pc]).length = s.machine.stack.depth + 1 := by
    rw [List.length_append, hs.sound.tidy.length_frames]
    rfl
  have hkept : s.machine.stack.frames ++ [s.pc] <+: u.machine.stack.frames :=
    hrun.prefix_frames ht (hcall.frames_eq hs ▸ List.prefix_rfl) hlength
  obtain ⟨hpc', htidy, hframes⟩ := return_of_ticks (ht.runsAbove hrun).sound hticks hkept
    (hdepth.trans hs.sound.tidy.length_frames.symm)
  refine ⟨?_, ?_, frameOf_pc_of_fetch hfetch, hkept⟩
  · rw [hpc']
    exact (toNat_add_of_le (by omega)).1
  · exact htidy.eq_of_frames hs.sound.tidy hframes

/-- A program that calls a subroutine of two words. -/
theorem return_from_call_of_program : ∃ s t u e : Engine, Reachable s ∧ Calls s t ∧
    RunsAbove s.machine.stack.depth t u ∧ Ticks u e ∧
    e.pc.toNat = s.pc.toNat + 2 ∧ e.machine.stack = s.machine.stack ∧
    CallStack.frameOf s.pc.toNat = s.pc ∧
    s.machine.stack.frames ++ [s.pc] <+: u.machine.stack.frames := by
  let program : List UInt8 := [0x22, 0x04, 0x00, 0x00, 0x60, 0x05, 0x00, 0xEE]
  obtain ⟨m, hload, h₀, h₄, h₆⟩ : ∃ m : Memory, Memory.initial.load program = .ok m ∧
      m.word (0x200 : Nat) = .ok 0x2204 ∧ m.word (0x204 : Nat) = .ok 0x6005 ∧
      m.word (0x206 : Nat) = .ok 0x00EE :=
    ⟨_, rfl, Memory.word_overlay (k := 0) (by decide) (by decide),
      Memory.word_overlay (k := 4) (by decide) (by decide),
      Memory.word_overlay (k := 6) (by decide) (by decide)⟩
  have hloaded : (({} : Engine).load program ()).result = .ok { machine.memory := m } := by
    rw [result_load, withProgram, Machine.load, hload]
    rfl
  have hs := (Reachable.start {} {}).step (.load hloaded)
  let inside : Engine := { machine := { memory := m, stack := .ofFrames [0x200] }, pc := 0x204 }
  let loaded : Engine := { inside.setRegister 0 5 with pc := 0x206 }
  let back : Engine := { loaded with machine.stack := {}, pc := 0x202 }
  have hticks : Ticks { machine.memory := m } inside := ticks_of_fetch rfl rfl rfl h₀ rfl
  have hrun : Ticks inside loaded := ticks_of_fetch rfl rfl rfl h₄ rfl
  have hret : Ticks loaded back := ticks_of_fetch rfl rfl rfl h₆ rfl
  have hcall : Calls { machine.memory := m } inside := ⟨rfl, rfl, ⟨_, h₀, rfl⟩, hticks⟩
  have hruns : RunsAbove 0 inside loaded := .step .refl (.tick hrun) Nat.one_pos
  exact ⟨_, _, _, _, hs, hcall, hruns, hret, return_from_call hs hcall hruns hret rfl⟩

end Engine

end Chip8
