import Chip8.Proofs.Debugging
import Chip8.Proofs.Drawing
import Chip8.Proofs.Frame
import Chip8.Proofs.Leads
import Chip8.Window.Playback

/-!
# Proofs/Window — the window shows what is on the screen

The window renders only a screen that was drawn on, and keeps showing the last frame otherwise.  So
between two renderings a frame on the window has to stay the frame of the screen for as long as the
screen is clean: that is the invariant (`Tended`), and every event and every step keeps it, because
nothing is drawn unmarked.  At the end of a frame the screen is clean, and the invariant says that
the window shows it (`leads_frame`).
-/

namespace Chip8

/-- Loading writes to the log and leaves its host alone. -/
theorem Engine.host_load {σ : Type} (e : Engine) (program : List UInt8) (s : σ) :
    (e.load program s).host = s := by
  rw [load, Interaction.bind_apply, Interaction.liftFault_apply]
  cases e.withProgram program <;> rfl

namespace Window

variable {w₀ w : Window} {e : Engine}

/-- That a window has the name, the memory, the scale and the colours of the window `w₀` it was
opened as, and shows the screen of its engine if that is clean. -/
structure Tended (w₀ w : Window) : Prop where
  rom_eq : w.rom = w₀.rom
  room_eq : w.room = w₀.room
  scale_eq : w.scale = w₀.scale
  colorScheme_eq : w.colorScheme = w₀.colorScheme
  shows : w.engine.machine.dirty = false → ∃ palette, Palette.parse w₀.colorScheme = .ok palette ∧
    w.engine.frame w₀.room w₀.scale palette = .ok w.surface

/-- An engine that is clean since leaves the window tended. -/
theorem Tended.cleanSince (h : Tended w₀ w) (he : Engine.CleanSince w.engine e) :
    Tended w₀ { w with engine := e } where
  rom_eq := h.rom_eq
  room_eq := h.room_eq
  scale_eq := h.scale_eq
  colorScheme_eq := h.colorScheme_eq
  shows hclean := by
    obtain ⟨hclean, hpicture⟩ := he hclean
    obtain ⟨palette, hpalette, hframe⟩ := h.shows hclean
    refine ⟨palette, hpalette, ?_⟩
    rw [← hframe, Engine.frame, hpicture]
    rfl

open Interaction

/-! ## Events and steps keep the window tended -/

/-- The debugger and the keypad beside it show nothing. -/
theorem keeps_atDebugger {α : Type} (x : Interaction (Debugger × Keypad) α) :
    Keeps (Tended w₀) (atDebugger x) :=
  fun _ _ hw _ => { hw with }

/-- A step leaves the window tended, since it draws only on the engine. -/
theorem keeps_step (elapsed : Option Double) : Keeps (Tended w₀) (step elapsed) := by
  refine .bind .get fun w => ?_
  refine .bind (Q := fun e w => Engine.CleanSince w.engine e ∧ Tended w₀ w) ?_ fun engine => ?_
  · rintro s engine ⟨rfl, hw⟩ hstep
    have htick := Debugger.step_eq_ok_iff.1 hstep
    exact ⟨Engine.Ticks.cleanSince ⟨_, _, _, _, htick⟩, keeps_atDebugger _ _ _ hw hstep⟩
  · exact .modify fun w hw => hw.2.cleanSince hw.1

theorem keeps_steps (n : Nat) (elapsed : Double) : Keeps (Tended w₀) (steps n elapsed) := by
  induction n generalizing elapsed with
  | zero => exact .pure fun _ hw => hw
  | succ n ih => exact .bind (keeps_step _) fun _ => ih 0

/-- A fresh start leaves the window tended: its engine is dirty. -/
theorem keeps_restart : Keeps (Tended w₀) restart := by
  refine .bind .get fun w => ?_
  refine .bind (Q := fun engine w => engine.machine.dirty = true ∧ Tended w₀ w) ?_ fun engine => ?_
  · rintro w' engine ⟨-, hw⟩ hload
    -- a fresh machine counts as drawn on, so that its dark screen is shown
    have hdirty : engine.machine.dirty = true := by
      obtain ⟨memory, rfl⟩ := Engine.eq_of_load hload
      rfl
    rw [Engine.host_load]
    exact ⟨hdirty, hw⟩
  · refine .bind (.modify fun w hw => ?_) fun _ => .say fun _ hw => hw
    exact hw.2.cleanSince (Engine.cleanSince_of_dirty hw.1)

theorem keeps_command (name : String) : Keeps (Tended w₀) (command name) := by
  refine .bind .get fun w => ?_
  have hidle : Leads (fun s => w = s ∧ Tended w₀ s) (pure ()) fun _ => Tended w₀ :=
    .pure fun _ hw => hw.2
  split
  · exact fun s _ hw => keeps_atDebugger _ s _ hw.2
  · split
    · exact fun s _ hw => keeps_step _ s _ hw.2
    · exact hidle
  · exact .bind (.liftFault fun _ _ hw _ => hw.2) fun _ => .say fun _ hw => hw
  · exact .say fun _ hw => hw.2
  · exact fun s _ hw => keeps_restart s _ hw.2
  · exact hidle

theorem keeps_press (name : String) : Keeps (Tended w₀) (press name) := by
  unfold press
  split
  · exact .modify fun _ hw => { hw with }
  · split
    · exact .modify fun _ hw => { hw with }
    · exact keeps_atDebugger _
    · exact keeps_command name

/-- **No event leaves a stale picture**, be it a single step or a fresh start. -/
theorem keeps_handle (event : Event) : Keeps (Tended w₀) (handle event) := by
  cases event with
  | keyDown name => exact keeps_press name
  | keyUp name =>
    rw [handle]
    split
    · exact .modify fun _ hw => { hw with }
    · exact .pure fun _ hw => hw
  | quit => exact .modify fun _ hw => { hw with }
  | other => exact .pure fun _ hw => hw

theorem keeps_handleAll (events : List Event) : Keeps (Tended w₀) (handleAll events) := by
  induction events with
  | nil => exact .pure fun _ hw => hw
  | cons event events ih => exact .bind (keeps_handle event) fun _ => ih

/-! ## Frames -/

/-- The end of a frame leaves the window tended and the screen clean. -/
theorem leads_refresh : Leads (Tended w₀) refresh fun _ w =>
    Tended w₀ w ∧ w.engine.machine.dirty = false := by
  refine .bind .get fun w => ?_
  refine .bind (Q := fun y w' => w = w' ∧ Tended w₀ w ∧
    w.engine.renderIfDirty w.room w.scale w.colorScheme = .ok y) ?_ ?_
  · exact .lift fun w' y hw hy => ⟨hw.1, hw.1 ▸ hw.2, hy⟩
  · rintro ⟨engine, frame⟩
    refine .modify ?_
    rintro w' ⟨rfl, hw, hrender⟩
    obtain ⟨hclean, rfl, rfl⟩ | ⟨_, palette, f, hpalette, hframe, rfl, rfl⟩ :=
      Engine.renderIfDirty_eq_ok_iff.1 hrender
    · exact ⟨{ hw with }, hclean⟩
    · rw [hw.room_eq, hw.scale_eq] at hframe
      rw [hw.colorScheme_eq] at hpalette
      exact ⟨{ hw with shows := fun _ => ⟨palette, hpalette, hframe⟩ }, rfl⟩

/-- **A frame ends with the screen on the window.** -/
theorem leads_frame (events : List Event) (now : Double) :
    Leads (Tended w₀) (frame events now) fun _ w =>
      Tended w₀ w ∧ w.engine.machine.dirty = false := by
  refine .bind (keeps_handleAll events) fun _ => .bind .get fun w => ?_
  refine .bind (.modify (Q := fun _ => Tended w₀) fun w' hw => { hw.2 with }) fun _ => ?_
  split
  · split
    · exact .bind (keeps_steps _ _) fun _ => leads_refresh
    · -- a blank number of steps fails, and a failure leads anywhere
      exact .bind (.lift fun _ _ hw _ => hw) fun _ => leads_refresh
  · exact leads_refresh

/-- The windows as frames leave them, up to the frame that fails. -/
def ended : List (Double × Outcome Window Unit) → List Window
  | [] => []
  | (_, o) :: rest =>
    match o.result with
    | .ok () => o.host :: ended rest
    | .error _ => []

/-- **Every window of a script is tended and clean**, up to the frame that fails. -/
theorem tended_of_mem_ended {script : List Moment} {clock : Double} (hw : Tended w₀ w)
    {w' : Window} (hw' : w' ∈ ended (outcomes script clock w)) :
    Tended w₀ w' ∧ w'.engine.machine.dirty = false := by
  induction script generalizing clock w with
  | nil => cases hw'
  | cons moment rest ih =>
    rw [outcomes, ended] at hw'
    cases hresult : (frame moment.events (moment.time.getD clock) w).result with
    | error err => simp [hresult] at hw'
    | ok _ =>
      have hframe := leads_frame moment.events (moment.time.getD clock) w () hw hresult
      simp only [hresult, List.mem_cons] at hw'
      rcases hw' with rfl | hw'
      · exact hframe
      · split at hw'
        · exact ih hframe.1 hw'
        · cases hw'

/-! ## Sessions -/

/-- The windows of a whole session; there are none if it ends before the first frame. -/
def windows (around : Surroundings) (o : Options) (file : Except FileFailure (List UInt8))
    (script : List Moment) : List Window :=
  match levelOf o, file with
  | .ok _, .ok program =>
    let engine : Engine := { config := configOf o }
    let opened := (engine.load program : Interaction Unit Engine) ()
    match opened.result >>= create around o program with
    | .ok w => ended (outcomes (script ++ [closing]) 0 w)
    | .error _ => []
  | _, _ => []

/-- What is played back are captions and surfaces of the windows. -/
theorem map_shown_play (c : Console) (pending : List String)
    (frames : List (Double × Outcome Window Unit)) :
    (play c pending frames).shown.map (fun s => (s.caption, s.frame)) =
      (ended frames).map fun w => (w.caption, w.surface) := by
  induction frames generalizing pending with
  | nil => rfl
  | cons first rest ih =>
    obtain ⟨now, o⟩ := first
    rw [play, ended]
    cases hr : o.result with
    | ok _ => simp [ih]
    | error err => cases err <;> rfl

/-- A session shows its windows. -/
theorem map_shown_session (around : Surroundings) (o : Options)
    (file : Except FileFailure (List UInt8)) (script : List Moment) :
    (session around o file script).shown.map (fun s => (s.caption, s.frame)) =
      (windows around o file script).map fun w => (w.caption, w.surface) := by
  unfold session windows
  cases levelOf o with
  | error err => rfl
  | ok level =>
    cases file with
    | error cause => rfl
    | ok program =>
      dsimp only
      cases (Engine.load { config := configOf o } program ()).result with
      | error err => rfl
      | ok engine =>
        dsimp only [Except.ok_bind]
        cases create around o program engine with
        | error err => rfl
        | ok w => exact map_shown_play _ _ _

/-- A window that could be made has what the options say. -/
theorem eq_of_create {o : Options} {program : List UInt8} (h : create around o program e = .ok w) :
    ∃ scale colorScheme surface, o.scale = some scale ∧ o.colorScheme = some colorScheme ∧
      w = {
        rom := o.rom, room := around.room, scale, colorScheme, ticksPerFrame := o.ticksPerFrame,
        program, engine := e, surface } := by
  unfold create at h
  split at h
  · next scale hscale =>
    obtain ⟨⟨width, height⟩, _, h⟩ := Except.bind_eq_ok_iff.1 h
    dsimp only at h
    split at h
    · next scheme hscheme =>
      obtain ⟨palette, _, h⟩ := Except.bind_eq_ok_iff.1 h
      exact ⟨scale, scheme, _, hscale, hscheme, (Except.ok.inj h).symm⟩
    · cases h
  · cases h

theorem create_eq_ok {o : Options} {program : List UInt8} (h : create around o program e = .ok w) :
    w.rom = o.rom ∧ w.room = around.room ∧ o.scale = some w.scale ∧
      o.colorScheme = some w.colorScheme ∧ w.engine = e := by
  obtain ⟨scale, colorScheme, surface, hscale, hscheme, rfl⟩ := eq_of_create h
  exact ⟨rfl, rfl, hscale, hscheme, rfl⟩

/-- A window of a session has the name, the scale and the colours of the options, and shows what is
on its screen. -/
theorem frame_of_mem_windows {o : Options} {file : Except FileFailure (List UInt8)}
    {script : List Moment} (hw : w ∈ windows around o file script) :
    w.rom = o.rom ∧ ∃ scale scheme palette, o.scale = some scale ∧ o.colorScheme = some scheme ∧
      Palette.parse scheme = .ok palette ∧
        w.engine.frame around.room scale palette = .ok w.surface := by
  unfold windows at hw
  split at hw
  · next level program =>
    dsimp only at hw
    split at hw
    · next opened hopened =>
      obtain ⟨engine, hload, hcreate⟩ := Except.bind_eq_ok_iff.1 hopened
      obtain ⟨hrom, hroom, hscale, hscheme, rfl⟩ := create_eq_ok hcreate
      obtain ⟨memory, hengine⟩ := Engine.eq_of_load hload
      -- a loaded engine counts as drawn on, so nothing is asked of the plain window it opens with
      have hopen : Tended opened opened :=
        ⟨rfl, rfl, rfl, rfl, fun hclean => by simp [hengine] at hclean⟩
      obtain ⟨hw, hclean⟩ := tended_of_mem_ended hopen hw
      obtain ⟨palette, hpalette, hframe⟩ := hw.shows hclean
      rw [hroom] at hframe
      exact ⟨hw.rom_eq.trans hrom, _, _, palette, hscale, hscheme, hpalette, hframe⟩
    · cases hw
  · cases hw

/-! ## The title of the window -/

/-- A text that begins with a character is found behind any text without this character. -/
theorem infix_append_iff {α : Type} {a : α} {l xs ys : List α} (ha : a ∉ xs) :
    a :: l <:+: xs ++ ys ↔ a :: l <:+: ys := by
  induction xs with
  | nil => rfl
  | cons x xs ih =>
    obtain ⟨hx, hxs⟩ := List.ne_and_not_mem_of_not_mem_cons ha
    rw [List.cons_append, List.infix_cons_iff, ih hxs, List.cons_prefix_cons]
    simp [hx]

/-- The caption is the title, with the mark while the buzzer sounds. -/
theorem caption_eq (w : Window) : w.caption =
    title w.rom ++ if w.engine.timers.sound = 0 then "" else " [BEEP]" := by
  have hsounding : w.engine.isSounding = decide (w.engine.timers.sound ≠ 0) := by
    rw [Engine.isSounding, decide_eq_decide, Nat.pos_iff_ne_zero]
    exact not_congr (UInt8.toNat_inj (b := 0))
  simp only [caption, hsounding, decide_eq_true_iff, ite_not]

/-- The title has the mark for the buzzer behind the name of the program, and contains it nowhere
else, unless the name does. -/
theorem beep_infix_caption_iff : "[BEEP]".toList <:+: w.caption.toList ↔
    w.engine.timers.sound ≠ 0 ∨ "[BEEP]".toList <:+: w.rom.toList := by
  have hname : "[BEEP]".toList <:+: (title w.rom).toList ↔ "[BEEP]".toList <:+: w.rom.toList := by
    have htitle : (title w.rom).toList = "chipvm - ".toList ++ w.rom.toList := by
      simp [title, String.toList_append, toString]
    rw [htitle]
    exact infix_append_iff (by decide)
  rw [caption_eq, String.toList_append, ← hname]
  by_cases hsound : w.engine.timers.sound = 0
  · simp [hsound]
  · rw [if_neg hsound]
    exact iff_of_true ⟨(title w.rom).toList ++ [' '], [], by simp⟩ (Or.inl hsound)

/-- **The window shows what is on the screen.**  At the end of every frame of a session the window
shows the frame of the screen of its engine, at the scale and in the colours that were asked for;
and the title has the mark for the buzzer behind the name of the program exactly if the sound timer
is not at zero. -/
theorem shown_is_on_screen {o : Options} {scale : Int} {scheme : String} {palette : Palette}
    (hscale : o.scale = some scale) (hscheme : o.colorScheme = some scheme)
    (hpalette : Palette.parse scheme = .ok palette) (around : Surroundings)
    (file : Except FileFailure (List UInt8)) (script : List Moment) :
    (session around o file script).shown.map (fun s => (s.caption, s.frame)) =
      (windows around o file script).map (fun w => (w.caption, w.surface)) ∧
    ∀ w ∈ windows around o file script, w.engine.frame around.room scale palette = .ok w.surface ∧
      w.caption = title o.rom ++ (if w.engine.timers.sound = 0 then "" else " [BEEP]") ∧
      ("[BEEP]".toList <:+: w.caption.toList ↔
        w.engine.timers.sound ≠ 0 ∨ "[BEEP]".toList <:+: o.rom.toList) := by
  refine ⟨map_shown_session around o file script, fun w hw => ?_⟩
  obtain ⟨hrom, scale', scheme', palette', hscale', hscheme', hpalette', hframe⟩ :=
    frame_of_mem_windows hw
  obtain rfl := Option.some.inj (hscale.symm.trans hscale')
  obtain rfl := Option.some.inj (hscheme.symm.trans hscheme')
  obtain rfl := Except.ok.inj (hpalette.symm.trans hpalette')
  exact ⟨hframe, hrom ▸ caption_eq w, hrom ▸ beep_infix_caption_iff⟩

/-- The first frame of a program that starts the buzzer. -/
theorem shown_is_on_screen_of_buzzer :
    let o : Options := { rom := "buzz.ch8", scale := some 1, ticksPerFrame := some 2 }
    let file := .ok [0x61, 0x09, 0xF1, 0x18, 0x12, 0x04]
    ∃ w ∈ windows .ample o file [], w.caption = "chipvm - buzz.ch8 [BEEP]" ∧
      w.engine.frame .unlimited 1 { on := ⟨255, 33, 110⟩, off := ⟨77, 77, 77⟩ } =
        .ok w.surface := by
  intro o file
  have hsounds : (windows .ample o file []).map (fun w => w.engine.timers.sound) = [9] := by
    decide +kernel
  obtain ⟨w, hw, hsound⟩ := List.mem_map.1 (hsounds ▸ List.mem_singleton_self 9)
  obtain ⟨_, h⟩ := shown_is_on_screen (o := o) rfl rfl rfl .ample file []
  obtain ⟨hframe, hcaption, _⟩ := h w hw
  rw [hsound] at hcaption
  exact ⟨w, hw, hcaption, hframe⟩

/-- The title of a silent window contains the mark if the name of the program does. -/
theorem beep_infix_caption_of_name :
    let o : Options := { rom := "[BEEP].ch8", ticksPerFrame := some 0 }
    ¬ ∀ w ∈ windows .ample o (.ok [0x12, 0x00]) [],
      "[BEEP]".toList <:+: w.caption.toList ↔ w.engine.timers.sound ≠ 0 := by
  intro o h
  have hsounds : (windows .ample o (.ok [0x12, 0x00]) []).map
      (fun w => w.engine.timers.sound) = [0] := by
    decide +kernel
  obtain ⟨w, hw, hsound⟩ := List.mem_map.1 (hsounds ▸ List.mem_singleton_self 0)
  have hrom : w.rom = "[BEEP].ch8" := (frame_of_mem_windows hw).1
  have hname : "[BEEP]".toList <:+: w.rom.toList := by
    rw [hrom]
    exact ⟨[], ".ch8".toList, by decide⟩
  exact (h w hw).1 (beep_infix_caption_iff.2 (Or.inr hname)) hsound

end Window

end Chip8
