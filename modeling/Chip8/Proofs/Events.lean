import Chip8.Proofs.Questions
import Chip8.Proofs.Window

/-!
# Proofs/Events — what events do to keypad and debugger

Of everything that has happened at a window, three things can be told from the events alone: which
keys of the keypad are down, the debugger's mode, and how many single steps were made.  They are
defined here on lists of events (`Event.HeldAfter`, `DebugMode.after`, `DebugMode.singleSteps`),
without a window.

An event then does to a window what it does to these (`handled_handle`), whatever branch it takes
there; a batch of events follows by induction (`leads_follows_handleAll`).
-/

namespace Chip8

namespace Event

/-! ## Keys of the host -/

/-- The key of the host under which a key of the keypad lies. -/
def hostKey (key : Fin 16) : String :=
  ["x", "1", "2", "3", "q", "w", "e", "a", "s", "d", "z", "c", "4", "r", "f", "v"].getD key ""

/-- **Every key of the keypad lies under one key of the host.** -/
theorem keypadKey?_eq_some_iff {name : String} {key : Fin 16} :
    keypadKey? name = some key ↔ name = hostKey key := by
  constructor
  · intro h
    refine (?_ : ∀ p ∈ _, p.1 = hostKey p.2) (name, key) (mem_of_lookup h)
    decide
  · rintro rfl
    revert key
    decide

/-- Two keys of the keypad lie under two keys of the host. -/
theorem hostKey_inj {key other : Fin 16} : hostKey key = hostKey other ↔ key = other := by
  rw [← keypadKey?_eq_some_iff, keypadKey?_eq_some_iff.2 rfl, Option.some.injEq]

theorem ne_hostKey {name : String} (h : keypadKey? name = none) (key : Fin 16) :
    name ≠ hostKey key := by
  rintro rfl
  cases h.symm.trans (keypadKey?_eq_some_iff.2 rfl)

theorem hostKey_ne_n (key : Fin 16) : hostKey key ≠ "n" := by
  revert key
  decide

/-- Whether an event is that a key of the host goes down or up. -/
def isAbout (name : String) (event : Event) : Bool := event = .keyDown name || event = .keyUp name

/-- That the last of some events about a key of the host is that it goes down. -/
def HeldAfter (events : List Event) (name : String) : Prop :=
  (events.filter (isAbout name)).getLast? = some (.keyDown name)

instance (events : List Event) (name : String) : Decidable (HeldAfter events name) :=
  inferInstanceAs (Decidable (_ = _))

/-- The last event decides about its own key, and leaves the others. -/
theorem heldAfter_concat {events : List Event} {event : Event} {name : String} :
    HeldAfter (events ++ [event]) name ↔
      event = .keyDown name ∨ event ≠ .keyUp name ∧ HeldAfter events name := by
  unfold HeldAfter
  rw [List.filter_append]
  by_cases hdown : event = .keyDown name
  · simp [isAbout, hdown]
  · by_cases hup : event = .keyUp name
    · simp [isAbout, hup]
    · simp [isAbout, hdown, hup]

/-- Whether an event closes the window. -/
def closes : Event → Bool
  | .quit => true
  | .keyDown name => name == "escape"
  | _ => false

end Event

namespace DebugMode

variable {mode chosen : DebugMode} {name : String}

/-! ## Modes -/

/-- The mode after an event. -/
def after (mode : DebugMode) : Event → DebugMode
  | .keyDown "0" => disabled
  | .keyDown "9" => step
  | .keyDown "8" => cpuInfo
  | .keyDown "7" => opcodeInfo
  | .keyDown "p" => if mode = step then disabled else step
  | _ => mode

/-- How many of some events ask for a single step while the mode is for that. -/
def singleSteps : DebugMode → List Event → Nat
  | _, [] => 0
  | mode, event :: rest =>
    (if event = .keyDown "n" ∧ mode = step then 1 else 0) + singleSteps (mode.after event) rest

/-- Single steps are counted batch by batch, each from the mode the last one left. -/
theorem singleSteps_append (mode : DebugMode) (events events' : List Event) :
    mode.singleSteps (events ++ events') =
      mode.singleSteps events + (events.foldl after mode).singleSteps events' := by
  induction events generalizing mode with
  | nil => simp [singleSteps]
  | cons event events ih => simp [singleSteps, ih, Nat.add_assoc]

/-- The keys of the keypad leave the mode. -/
theorem after_hostKey (mode : DebugMode) (key : Fin 16) :
    mode.after (.keyDown (Event.hostKey key)) = mode := by
  revert key
  cases mode <;> decide

theorem after_of_debugKey? (h : Event.debugKey? name = some chosen) :
    mode.after (.keyDown name) = chosen := by
  refine (?_ : ∀ p ∈ _, mode.after (.keyDown p.1) = p.2) (name, chosen) (mem_of_lookup h)
  cases mode <;> decide

/-- Other keys leave the mode, except the one that pauses. -/
theorem after_of_debugKey?_eq_none (h : Event.debugKey? name = none) (hp : name ≠ "p") :
    mode.after (.keyDown name) = mode := by
  unfold after
  split
  case h_5 heq => exact absurd (Event.keyDown.inj heq) hp
  case h_6 => rfl
  -- the other keys choose a mode
  all_goals
    next heq =>
      cases heq
      cases h

end DebugMode

namespace Keypad

/-- A question leaves a keypad as it is. -/
theorem after_keyboard (p : Keypad) (q : Option Question) : keyboard.after p q = p := by
  rcases q with _ | _ | _ <;> rfl

end Keypad

namespace Window

open Interaction

variable {w₀ w w' : Window} {n : Nat}

/-! ## Steps -/

/-- That some steps were counted between two windows, and keypad and mode are the same. -/
structure Stepped (n : Nat) (w w' : Window) : Prop where
  keypad_eq : w'.keypad = w.keypad
  mode_eq : w'.debugger.mode = w.debugger.mode
  steps_eq : w'.debugger.steps = w.debugger.steps + n
  running_eq : w'.running = w.running
  ticksPerFrame_eq : w'.ticksPerFrame = w.ticksPerFrame

theorem Stepped.refl (w : Window) : Stepped 0 w w := ⟨rfl, rfl, rfl, rfl, rfl⟩

/-- A step is counted, and leaves keypad and mode. -/
theorem leads_stepped_step (elapsed : Option Double) :
    Leads (Stepped n w₀) (step elapsed) fun _ => Stepped (n + 1) w₀ := by
  refine .bind .get fun w => .bind (Q := fun _ => Stepped (n + 1) w₀) ?_ fun engine => ?_
  · rintro s engine ⟨rfl, hw⟩ hstep
    have htick := Debugger.step_eq_ok_iff.1 hstep
    have hkeypad := Debugger.host_step Keypad.keyboard elapsed w.debugger w.engine w.keypad
    rw [Engine.host_tick htick, Keypad.after_keyboard] at hkeypad
    have hdebugger := Debugger.debugger_of_step Keypad.keyboard elapsed w.debugger w.engine w.keypad
    rw [Debugger.step_eq_ok_iff.2 htick] at hdebugger
    obtain ⟨hmode, hsteps, _⟩ := hdebugger
    exact {
      keypad_eq := hkeypad.trans hw.keypad_eq
      mode_eq := hmode.trans hw.mode_eq
      steps_eq := by
        rw [← Nat.add_assoc]
        exact hsteps.trans (congrArg (· + 1) hw.steps_eq)
      running_eq := hw.running_eq
      ticksPerFrame_eq := hw.ticksPerFrame_eq }
  · exact .modify fun _ hw => { hw with }

theorem leads_stepped_steps (count : Nat) (elapsed : Double) :
    Leads (Stepped n w₀) (steps count elapsed) fun _ => Stepped (n + count) w₀ := by
  induction count generalizing n elapsed with
  | zero => exact .pure fun _ hw => hw
  | succ count ih =>
    refine .bind (leads_stepped_step _) fun _ => ?_
    rw [Nat.add_comm count, ← Nat.add_assoc]
    exact ih 0

/-- A fresh start leaves keypad, mode and count. -/
theorem keeps_stepped_restart : Keeps (Stepped n w₀) restart := by
  refine .bind .get fun w => .bind (Q := fun _ => Stepped n w₀) ?_ fun engine => ?_
  · rintro s engine ⟨_, hw⟩ _
    rw [Engine.host_load]
    exact hw
  · exact .bind (.modify fun _ hw => { hw with }) fun _ => .say fun _ hw => hw

/-- A command makes a step if it is the one for that, in the mode for that. -/
theorem leads_stepped_command {name : String} (hp : name ≠ "p") :
    Leads (· = w) (command name) fun _ =>
      Stepped (if name = "n" ∧ w.debugger.mode = .step then 1 else 0) w := by
  refine .bind .get fun v => ?_
  split
  · exact absurd rfl hp
  · rintro s a ⟨rfl, rfl⟩ ha
    split at ha
    · next hmode =>
      rw [if_pos hmode, if_pos ⟨rfl, hmode⟩]
      exact leads_stepped_step none _ _ (Stepped.refl _) ha
    · next hmode =>
      rw [if_neg hmode, if_neg fun h => hmode h.2]
      exact Stepped.refl _
  · refine .bind (.liftFault (Q := fun _ => (· = w)) fun _ _ hs _ => hs.2) fun entries => ?_
    exact .say fun s hs => hs ▸ Stepped.refl s
  · exact .say fun s hs => hs.2 ▸ Stepped.refl s
  · rintro s a ⟨rfl, rfl⟩ ha
    exact keeps_stepped_restart _ _ (Stepped.refl _) ha
  · next hn _ _ _ =>
    rw [if_neg fun h => hn h.1]
    exact .pure fun s hs => hs.2 ▸ Stepped.refl s

/-! ## Events -/

/-- What an event makes of a window. -/
structure Handled (event : Event) (w w' : Window) : Prop where
  mem_pressed : ∀ key, key ∈ w'.keypad.pressed ↔ event = .keyDown (Event.hostKey key) ∨
    event ≠ .keyUp (Event.hostKey key) ∧ key ∈ w.keypad.pressed
  mode_eq : w'.debugger.mode = w.debugger.mode.after event
  steps_eq : w'.debugger.steps = w.debugger.steps +
    if event = .keyDown "n" ∧ w.debugger.mode = .step then 1 else 0
  running_eq : w'.running = (w.running && !event.closes)
  ticksPerFrame_eq : w'.ticksPerFrame = w.ticksPerFrame

/-- Most events leave the debugger alone. -/
theorem handled_of_debugger_eq {event : Event}
    (hpressed : ∀ key, key ∈ w'.keypad.pressed ↔ event = .keyDown (Event.hostKey key) ∨
      event ≠ .keyUp (Event.hostKey key) ∧ key ∈ w.keypad.pressed)
    (hdebugger : w'.debugger = w.debugger) (hmode : w.debugger.mode.after event = w.debugger.mode)
    (hstep : event ≠ .keyDown "n") (hrunning : w'.running = (w.running && !event.closes))
    (hticks : w'.ticksPerFrame = w.ticksPerFrame) : Handled event w w' where
  mem_pressed := hpressed
  mode_eq := by rw [hdebugger, hmode]
  steps_eq := by simp [hdebugger, hstep]
  running_eq := hrunning
  ticksPerFrame_eq := hticks

/-- A key beside the keypad leaves the keypad alone. -/
theorem mem_pressed_of_keypad_eq {name : String} {key : Fin 16}
    (hname : Event.keypadKey? name = none) (hkeypad : w'.keypad = w.keypad) :
    key ∈ w'.keypad.pressed ↔ Event.keyDown name = .keyDown (Event.hostKey key) ∨
      Event.keyDown name ≠ .keyUp (Event.hostKey key) ∧ key ∈ w.keypad.pressed := by
  have hne : name ≠ Event.hostKey key := Event.ne_hostKey hname key
  simp [hne, hkeypad]

/-- A key other than the one for that leaves the window as open as it is. -/
theorem running_eq_of_ne_escape {name : String} (h : name ≠ "escape") :
    w.running = (w.running && !Event.closes (.keyDown name)) := by
  have hopen : Event.closes (.keyDown name) = false := beq_false_of_ne h
  rw [hopen, Bool.not_false, Bool.and_true]

/-- A key that is a command does what its event says. -/
theorem handled_command {name : String} (hescape : name ≠ "escape")
    (hkey : Event.keypadKey? name = none) (hdebug : Event.debugKey? name = none)
    (h : (command name w).result = .ok ()) : Handled (.keyDown name) w (command name w).host := by
  by_cases hp : name = "p"
  · subst hp
    exact {
      mem_pressed := fun _ => mem_pressed_of_keypad_eq hkey rfl
      mode_eq := rfl
      steps_eq := rfl
      running_eq := running_eq_of_ne_escape hescape
      ticksPerFrame_eq := rfl }
  · have hw := leads_stepped_command hp w () rfl h
    have hmode : w.debugger.mode.after (.keyDown name) = w.debugger.mode :=
      DebugMode.after_of_debugKey?_eq_none hdebug hp
    exact {
      mem_pressed := fun _ => mem_pressed_of_keypad_eq hkey hw.keypad_eq
      mode_eq := hw.mode_eq.trans hmode.symm
      steps_eq := by simpa using hw.steps_eq
      running_eq := hw.running_eq.trans (running_eq_of_ne_escape hescape)
      ticksPerFrame_eq := hw.ticksPerFrame_eq }

/-- **Every key that goes down** does what its event says. -/
theorem handled_press {name : String} (h : (press name w).result = .ok ()) :
    Handled (.keyDown name) w (press name w).host := by
  unfold press at h ⊢
  by_cases hescape : name = "escape"
  · subst hescape
    exact handled_of_debugger_eq (fun _ => mem_pressed_of_keypad_eq rfl rfl) rfl
      (DebugMode.after_of_debugKey?_eq_none rfl (by decide)) (by simp) (Bool.and_false _).symm rfl
  rw [if_neg hescape] at h ⊢
  cases hkey : Event.keypadKey? name with
  | some key =>
    obtain rfl := Event.keypadKey?_eq_some_iff.1 hkey
    simp only [hkey] at h ⊢
    refine handled_of_debugger_eq (fun other => ?_) rfl (DebugMode.after_hostKey _ key)
      (by simp [Event.hostKey_ne_n]) (running_eq_of_ne_escape hescape) rfl
    rw [modify_apply, Keypad.mem_pressed_set, Event.keyDown.injEq, Event.hostKey_inj]
    by_cases hother : key = other
    · simp [hother]
    · simp [hother]
  | none =>
    cases hdebug : Event.debugKey? name with
    | some mode =>
      simp only [hkey, hdebug] at h ⊢
      have hn : name ≠ "n" := by
        rintro rfl
        cases hdebug
      exact {
        mem_pressed := fun _ => mem_pressed_of_keypad_eq hkey rfl
        mode_eq := (DebugMode.after_of_debugKey? hdebug).symm
        steps_eq := by
          rw [if_neg fun hstep => hn (Event.keyDown.inj hstep.1)]
          rfl
        running_eq := running_eq_of_ne_escape hescape
        ticksPerFrame_eq := rfl }
    | none =>
      simp only [hkey, hdebug] at h ⊢
      exact handled_command hescape hkey hdebug h

/-- **An event does to a window what it does to keys, mode and steps.** -/
theorem handled_handle {event : Event} (h : (handle event w).result = .ok ()) :
    Handled event w (handle event w).host := by
  cases event with
  | keyDown name => exact handled_press h
  | keyUp name =>
    rw [handle] at h ⊢
    cases hkey : Event.keypadKey? name with
    | some key =>
      obtain rfl := Event.keypadKey?_eq_some_iff.1 hkey
      simp only [hkey] at h ⊢
      refine handled_of_debugger_eq (fun other => ?_) rfl rfl (by simp) (Bool.and_true _).symm rfl
      rw [modify_apply, Keypad.mem_pressed_set, ne_eq, Event.keyUp.injEq, Event.hostKey_inj]
      by_cases hother : key = other
      · simp [hother]
      · simp [hother]
    | none =>
      simp only [hkey] at h ⊢
      refine handled_of_debugger_eq (fun other => ?_) rfl rfl (by simp) (Bool.and_true _).symm rfl
      simp [Event.ne_hostKey hkey other]
  | quit =>
    exact handled_of_debugger_eq (fun _ => by simp [handle]) rfl rfl (by simp)
      (Bool.and_false _).symm rfl
  | other =>
    exact handled_of_debugger_eq (fun _ => by simp [handle]) rfl rfl (by simp)
      (Bool.and_true _).symm rfl

/-! ## Batches of events -/

/-- That keypad, mode and door of a window are what events made of them since it was the window
`w₀`, and that the debugger has counted the single steps among these beside `ticks` other ones. -/
structure Follows (w₀ : Window) (events : List Event) (ticks : Nat) (w : Window) : Prop where
  mem_pressed : ∀ key, key ∈ w.keypad.pressed ↔ Event.HeldAfter events (Event.hostKey key)
  mode_eq : w.debugger.mode = events.foldl DebugMode.after .disabled
  steps_eq : w.debugger.steps = ticks + DebugMode.disabled.singleSteps events
  running_eq : w.running = !events.any Event.closes
  ticksPerFrame_eq : w.ticksPerFrame = w₀.ticksPerFrame

variable {events : List Event} {event : Event} {ticks : Nat}

/-- A window that follows some events follows one more when it is handled. -/
theorem Follows.concat (hw : Follows w₀ events ticks w) (h : Handled event w w') :
    Follows w₀ (events ++ [event]) ticks w' where
  mem_pressed key := by rw [h.mem_pressed, Event.heldAfter_concat, hw.mem_pressed]
  mode_eq := by rw [h.mode_eq, hw.mode_eq, List.foldl_append, List.foldl_cons, List.foldl_nil]
  steps_eq := by
    rw [h.steps_eq, hw.steps_eq, hw.mode_eq, DebugMode.singleSteps_append]
    simp [DebugMode.singleSteps, Nat.add_assoc]
  running_eq := by rw [h.running_eq, hw.running_eq]; simp
  ticksPerFrame_eq := h.ticksPerFrame_eq.trans hw.ticksPerFrame_eq

/-- **A batch of events** is followed to its end, whether or not one of them closes the window. -/
theorem leads_follows_handleAll (batch : List Event) :
    Leads (Follows w₀ events ticks) (handleAll batch) fun _ =>
      Follows w₀ (events ++ batch) ticks := by
  induction batch generalizing events with
  | nil =>
    rw [List.append_nil]
    exact .pure fun _ hw => hw
  | cons event batch ih =>
    rw [List.append_cons]
    exact .bind (fun w _ hw h => hw.concat (handled_handle h)) fun _ => ih

end Window

end Chip8
