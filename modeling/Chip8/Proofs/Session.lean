import Chip8.Proofs.Events

/-!
# Proofs/Session — what a script makes of a session

A frame handles its events, makes its steps unless the mode is then for single ones, and renders;
events that close the window change nothing about that (`leads_follows_frame`).  So along a session
keys, mode and steps can be told from the script: the invariant is that the window at the start of a
frame follows the moments before it (`played_outcomes`).  As the same invariant says whether the
window is still open, it also tells which frame is the last (`length_outcomes`).
-/

namespace Chip8

/-- Whether something closes the window at a moment. -/
def Moment.closes (m : Moment) : Bool := m.events.any Event.closes

namespace DebugMode

/-- In how many frames the mode is not for single steps, once the events are handled. -/
def freeFrames : DebugMode → List Moment → Nat
  | _, [] => 0
  | mode, m :: rest =>
    let next := m.events.foldl after mode
    (if next = step then 0 else 1) + freeFrames next rest

/-- A moment adds a free frame, unless the mode behind its events is to step. -/
theorem freeFrames_concat (mode : DebugMode) (before : List Moment) (m : Moment) :
    mode.freeFrames (before ++ [m]) = mode.freeFrames before +
      if ((before ++ [m]).flatMap Moment.events).foldl after mode = step then 0 else 1 := by
  induction before generalizing mode with
  | nil => simp [freeFrames]
  | cons first before ih =>
    rw [List.cons_append, freeFrames, freeFrames, ih, Nat.add_assoc, List.flatMap_cons,
      List.foldl_append]

end DebugMode

namespace Window

open Interaction

variable {w₀ w : Window} {events : List Event} {ticks : Nat} {m : Moment} {clock now : Double}
  {before moments : List Moment}

/-! ## Frames -/

/-- The ticks of a frame are counted beside the single steps. -/
theorem leads_follows_steps (n : Nat) (elapsed : Double) :
    Leads (Follows w₀ events ticks) (steps n elapsed) fun _ => Follows w₀ events (ticks + n) := by
  intro w a hw ha
  have hsteps := leads_stepped_steps n elapsed w a (Stepped.refl w) ha
  exact {
    mem_pressed := by simpa only [hsteps.keypad_eq] using hw.mem_pressed
    mode_eq := hsteps.mode_eq.trans hw.mode_eq
    steps_eq := by rw [hsteps.steps_eq, hw.steps_eq]; omega
    running_eq := hsteps.running_eq.trans hw.running_eq
    ticksPerFrame_eq := hsteps.ticksPerFrame_eq.trans hw.ticksPerFrame_eq }

theorem keeps_follows_refresh : Keeps (Follows w₀ events ticks) refresh := by
  refine .bind .get fun w => .bind (Q := fun _ => Follows w₀ events ticks) ?_ ?_
  · exact .lift fun _ _ hw _ => hw.2
  · rintro ⟨engine, frame⟩
    exact .modify fun _ hw => { hw with }

/-- How many steps a frame makes when the mode is not for single ones. -/
def perFrame (w : Window) : Nat := (w.ticksPerFrame.getD 0).toNat

/-- **A frame** follows all of its events, and makes its steps if they leave the mode for that. -/
theorem leads_follows_frame (batch : List Event) (now : Double) :
    Leads (Follows w₀ events ticks) (frame batch now) fun _ => Follows w₀ (events ++ batch)
      (ticks + w₀.perFrame *
        if (events ++ batch).foldl DebugMode.after .disabled = .step then 0 else 1) := by
  refine .bind (leads_follows_handleAll batch) fun _ => .bind .get fun w => ?_
  refine .bind (Q := fun _ s => Follows w₀ (events ++ batch) ticks w ∧
    Follows w₀ (events ++ batch) ticks s) (.modify fun s hs => ?_) fun _ => ?_
  · exact ⟨hs.1 ▸ hs.2, { hs.2 with }⟩
  refine .of_and fun hw => ?_
  rw [← hw.mode_eq, perFrame, ← hw.ticksPerFrame_eq]
  split
  · split
    · next n hn =>
      rw [hn, Nat.mul_one]
      exact .bind (leads_follows_steps _ _) fun _ => keeps_follows_refresh
    · -- a blank number of steps fails, and a failure leads anywhere
      refine .bind (.lift fun _ _ _ h => ?_) fun _ => keeps_follows_refresh
      cases h
  · next hmode =>
    rw [if_pos (Decidable.not_not.1 hmode)]
    exact keeps_follows_refresh

/-! ## Scripts -/

/-- That a window follows the frames of some moments. -/
abbrev Played (w₀ : Window) (before : List Moment) (w : Window) : Prop :=
  Follows w₀ (before.flatMap Moment.events)
    (w₀.perFrame * DebugMode.disabled.freeFrames before) w

/-- **A frame that succeeds** plays one moment more. -/
theorem Played.concat (hw : Played w₀ before w) (h : (frame m.events now w).result = .ok ()) :
    Played w₀ (before ++ [m]) (frame m.events now w).host := by
  rw [Played, DebugMode.freeFrames_concat, Nat.mul_add, List.flatMap_append,
    List.flatMap_singleton]
  exact leads_follows_frame m.events now w () hw h

/-- Between events and steps of a frame the events count already. -/
theorem Played.batched (hw : Played w₀ before w) (h : (frame m.events now w).result = .ok ()) :
    (handleAll m.events w).result = .ok () ∧
      Follows w₀ ((before ++ [m]).flatMap Moment.events)
        (w₀.perFrame * DebugMode.disabled.freeFrames before) (handleAll m.events w).host := by
  rw [frame, result_bind] at h
  obtain ⟨_, hbatch, _⟩ := Except.bind_eq_ok_iff.1 h
  refine ⟨hbatch, ?_⟩
  rw [List.flatMap_append, List.flatMap_singleton]
  exact leads_follows_handleAll m.events w () hw hbatch

theorem Played.running (hw : Played w₀ before w) : w.running = !before.any Moment.closes := by
  rw [hw.running_eq, List.any_flatMap]
  rfl

/-- A script goes on after a frame unless its moment closes the window. -/
theorem Played.outcomes_cons (hw : Played w₀ before w)
    (hbefore : before.any Moment.closes = false)
    (h : (frame m.events (m.time.getD clock) w).result = .ok ()) :
    outcomes (m :: moments) clock w =
      (m.time.getD clock, frame m.events (m.time.getD clock) w) :: bif m.closes then [] else
        outcomes moments (m.time.getD clock) (frame m.events (m.time.getD clock) w).host := by
  have hrunning : (frame m.events (m.time.getD clock) w).host.running = !m.closes := by
    simp [(hw.concat h).running, hbefore]
  rw [outcomes, h, hrunning]
  cases m.closes <;> rfl

/-- **Every moment has its frame**, up to one that closes the window, and the window at the start of
it follows the moments before. -/
theorem played_outcomes {passed after : List Moment} (hw : Played w₀ before w)
    (hbefore : before.any Moment.closes = false) (hpassed : passed.any Moment.closes = false)
    (hok : ∀ f ∈ outcomes (passed ++ m :: after) clock w, f.2.result = .ok ()) :
    ∃ start now,
      (w :: (outcomes (passed ++ m :: after) clock w).map (·.2.host))[passed.length]? =
        some start ∧
      (outcomes (passed ++ m :: after) clock w)[passed.length]? =
        some (now, frame m.events now start) ∧
      Played w₀ (before ++ passed) start := by
  induction passed generalizing before clock w with
  | nil =>
    refine ⟨w, m.time.getD clock, rfl, rfl, ?_⟩
    rwa [List.append_nil]
  | cons first passed ih =>
    have hfirst : (frame first.events (first.time.getD clock) w).result = .ok () :=
      hok _ (List.mem_cons_self ..)
    obtain ⟨hstays, hpassed⟩ := Bool.or_eq_false_iff.1 (List.any_cons ▸ hpassed)
    have hbefore' : (before ++ [first]).any Moment.closes = false := by
      simp [hbefore, hstays]
    rw [List.cons_append, hw.outcomes_cons hbefore hfirst, hstays, cond_false] at hok ⊢
    rw [List.append_cons before]
    exact ih (hw.concat hfirst) hbefore' hpassed fun f hf => hok f (List.mem_cons_of_mem _ hf)

/-- **The last frame** is the first that closes the window. -/
theorem length_outcomes (hw : Played w₀ before w) (hbefore : before.any Moment.closes = false)
    (hcloses : moments.any Moment.closes = true)
    (hok : ∀ f ∈ outcomes moments clock w, f.2.result = .ok ()) :
    (outcomes moments clock w).length = moments.findIdx Moment.closes + 1 := by
  induction moments generalizing before clock w with
  | nil => cases hcloses
  | cons m moments ih =>
    have hfirst : (frame m.events (m.time.getD clock) w).result = .ok () :=
      hok _ (List.mem_cons_self ..)
    rw [hw.outcomes_cons hbefore hfirst] at hok ⊢
    rw [List.any_cons] at hcloses
    rw [List.findIdx_cons]
    cases hm : m.closes with
    | true => rfl
    | false =>
      have hbefore' : (before ++ [m]).any Moment.closes = false := by
        simp [hbefore, hm]
      rw [hm, Bool.false_or] at hcloses
      rw [hm, cond_false] at hok
      exact congrArg (· + 1) (ih (hw.concat hfirst) hbefore' hcloses fun f hf =>
        hok f (List.mem_cons_of_mem _ hf))

/-! ## Sessions -/

theorem ended_of_ok {frames : List (Double × Outcome Window Unit)}
    (hok : ∀ f ∈ frames, f.2.result = .ok ()) : ended frames = frames.map (·.2.host) := by
  induction frames with
  | nil => rfl
  | cons f frames ih =>
    rw [ended, hok f (List.mem_cons_self ..), List.map_cons]
    exact congrArg _ (ih fun f hf => hok f (List.mem_cons_of_mem _ hf))

/-- The window that a session opens. -/
def opened (around : Surroundings) (o : Options) (program : List UInt8) : Except Error Window :=
  ((Engine.load { config := configOf o } program : Interaction Unit Engine) ()).result >>=
    create around o program

variable {around : Surroundings} {o : Options} {program : List UInt8} {level : Level}
  {script : List Moment}

/-- The windows of a session that opens are those of its script and one closing moment. -/
theorem windows_of_opened (hlevel : levelOf o = .ok level)
    (hopened : opened around o program = .ok w) :
    windows around o (.ok program) script = ended (outcomes (script ++ [closing]) 0 w) := by
  unfold opened at hopened
  simp only [windows, hlevel, hopened]

/-- Nothing has happened at a window that was just opened. -/
theorem played_of_opened (hopened : opened around o program = .ok w) :
    Played w [] w ∧ w.ticksPerFrame = o.ticksPerFrame := by
  obtain ⟨engine, _, hcreate⟩ := Except.bind_eq_ok_iff.1 hopened
  obtain ⟨scale, colorScheme, surface, _, _, rfl⟩ := eq_of_create hcreate
  refine ⟨?_, rfl⟩
  exact {
    mem_pressed := fun key => by simp [Keypad.pressed_blank, Event.HeldAfter]
    mode_eq := rfl
    steps_eq := rfl
    running_eq := rfl
    ticksPerFrame_eq := rfl }

/-- **Events decide.**  In a session without errors every moment up to the first that closes the
window has its frame, and no other has.  A frame begins at the window that the frame before left.
When its events are handled, keys, mode and steps are what the events of all moments so far make of
them; then it makes its own steps and shows the screen, whether or not it closes the window. -/
theorem events_decide (hlevel : levelOf o = .ok level)
    (hopened : opened around o program = .ok w)
    (hok : ∀ f ∈ outcomes (script ++ [closing]) 0 w, f.2.result = .ok ()) :
    let moments := script ++ [closing]
    let frames := outcomes moments 0 w
    let ticks moments := (o.ticksPerFrame.getD 0).toNat * DebugMode.disabled.freeFrames moments
    (∀ key name, Event.keypadKey? name = some key ↔ name = Event.hostKey key) ∧
    (session around o (.ok program) script).shown.map (fun s => (s.caption, s.frame)) =
      frames.map (fun f => (f.2.host.caption, f.2.host.surface)) ∧
    frames.length = moments.findIdx Moment.closes + 1 ∧
    ∀ before m after, moments = before ++ m :: after → before.any Moment.closes = false →
      ∃ start now, (w :: frames.map (·.2.host))[before.length]? = some start ∧
        frames[before.length]? = some (now, frame m.events now start) ∧
        (handleAll m.events start).result = .ok () ∧
        Follows w ((before ++ [m]).flatMap Moment.events) (ticks before)
          (handleAll m.events start).host ∧
        Follows w ((before ++ [m]).flatMap Moment.events) (ticks (before ++ [m]))
          (frame m.events now start).host ∧
        ∃ scale scheme palette, o.scale = some scale ∧ o.colorScheme = some scheme ∧
          Palette.parse scheme = .ok palette ∧
          (frame m.events now start).host.engine.frame around.room scale palette =
            .ok (frame m.events now start).host.surface := by
  obtain ⟨hplayed, hperFrame⟩ := played_of_opened hopened
  intro moments frames ticks
  have hwindows : windows around o (.ok program) script = frames.map (·.2.host) :=
    (windows_of_opened hlevel hopened).trans (ended_of_ok hok)
  refine ⟨fun _ _ => Event.keypadKey?_eq_some_iff, ?_, length_outcomes hplayed rfl ?_ hok, ?_⟩
  · rw [map_shown_session, hwindows, List.map_map]
    rfl
  · simp [moments, Moment.closes, closing, Event.closes]
  rintro before m after hmoments hopen
  have hsplit : ∀ f ∈ outcomes moments 0 w, f.2.result = .ok () := hok
  rw [hmoments] at hsplit
  obtain ⟨start, now, hstart, hframe, hfollows⟩ := played_outcomes hplayed rfl hopen hsplit
  rw [← hmoments] at hstart hframe
  have hmem : (now, frame m.events now start) ∈ frames := List.mem_of_getElem? hframe
  have hticks : ∀ ms, ticks ms = w.perFrame * DebugMode.disabled.freeFrames ms := by
    intro ms
    rw [perFrame, hperFrame]
  obtain ⟨_, hrendered⟩ := frame_of_mem_windows (hwindows ▸ List.mem_map_of_mem hmem)
  obtain ⟨hbatch, hbatched⟩ := hfollows.batched (hok _ hmem)
  refine ⟨start, now, hstart, hframe, hbatch, ?_, ?_, hrendered⟩
  · rw [hticks]
    exact hbatched
  · rw [hticks]
    exact hfollows.concat (hok _ hmem)

/-- A session that is closed in the middle of the second frame, while single steps are made. -/
theorem events_decide_of_quit :
    let o : Options := { rom := "loop.ch8", scale := some 1, ticksPerFrame := some 2 }
    let first : Moment := { events := [.keyDown "9", .keyDown "n", .keyDown "q", .keyDown "p",
      .keyUp "q", .keyDown "x", .keyDown "n"] }
    let second : Moment := { events := [.keyDown "p", .keyDown "n", .quit, .keyDown "1",
      .keyDown "n", .keyUp "x"] }
    let script := [first, second, { events := [.keyDown "v"] }]
    ∃ w, opened .ample o [0x12, 0x00] = .ok w ∧ (outcomes (script ++ [closing]) 0 w).length = 2 ∧
      ∃ now last, (outcomes (script ++ [closing]) 0 w)[1]? = some (now, last) ∧
        last.host.debugger.steps = 5 ∧ last.host.debugger.mode = .step ∧
        ∀ key, key ∈ last.host.keypad.pressed ↔ key = 1 := by
  intro o first second script
  have hopens : (opened .ample o [0x12, 0x00]).toOption.isSome = true := by decide +kernel
  have hruns : ∀ w ∈ (opened .ample o [0x12, 0x00]).toOption,
      ∀ f ∈ outcomes (script ++ [closing]) 0 w, f.2.result.toOption = some () := by decide +kernel
  obtain ⟨w, hw⟩ := Option.isSome_iff_exists.1 hopens
  have hopened := Except.eq_ok_of_toOption hw
  have hlevel : levelOf o = .ok .info := rfl
  have hok : ∀ f ∈ outcomes (script ++ [closing]) 0 w, f.2.result = .ok () :=
    fun f hf => Except.eq_ok_of_toOption (hruns w hw f hf)
  obtain ⟨_, _, hlength, hframes⟩ := events_decide hlevel hopened hok
  obtain ⟨start, now, _, hframe, _, _, hlast, _⟩ := hframes [first] second _ rfl (by decide)
  refine ⟨w, hopened, hlength.trans (by decide), now, _, hframe, ?_, ?_, fun key => ?_⟩
  · exact hlast.steps_eq.trans (by decide)
  · exact hlast.mode_eq.trans (by decide)
  · rw [hlast.mem_pressed]
    revert key
    decide

end Window

end Chip8
