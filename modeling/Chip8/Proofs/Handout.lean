import Chip8.Proofs.Drawing
import Chip8.Proofs.Frame

/-!
# Proofs/Handout — a clean screen shows what was last handed out

A host works with an engine in any order: ticks, single words, timers, loads, resets, and now and
then it takes the picture or has it rendered if the engine is dirty (`Action`).  What fails changes
nothing.  Beside the engine we keep what was handed out last (`Action.next`); the invariant
`UpToDate` relates the two, and is read after any list of actions.
-/

namespace Chip8

/-- What an engine hands out of its screen. -/
inductive Handout
  | picture (picture : Picture)
  /-- A frame, with the memory that there was and the scale and colour scheme asked for. -/
  | frame (room : Room) (scale : Int) (scheme : String) (frame : Frame)

namespace Handout

/-- That something handed out shows a picture. -/
def Shows (p : Picture) : Handout → Prop
  | picture q => q = p
  | frame room scale scheme f =>
    ∃ palette, Palette.parse scheme = .ok palette ∧
      Frame.render room p.toRows scale palette = .ok f

/-- What is handed out shows one picture, pixel for pixel. -/
theorem Shows.unique {handout : Handout} {p q : Picture} (hp : handout.Shows p)
    (hq : handout.Shows q) : p = q := by
  cases handout with
  | picture r => exact Eq.trans (Eq.symm hp) hq
  | frame room scale scheme f =>
    obtain ⟨palette, hpalette, hp⟩ := hp
    obtain ⟨palette', hpalette', hq⟩ := hq
    obtain rfl := Except.ok.inj (hpalette.symm.trans hpalette')
    exact Frame.render_inj hpalette hp hq

end Handout

namespace Engine

/-- What a host does with an engine.  Every keyboard comes in the state that it is in. -/
inductive Action : Type 1
  | tick {σ : Type} (kb : Keyboard σ) (s : σ) (elapsed : Option Double)
  | execute {σ : Type} (kb : Keyboard σ) (s : σ) (code : Int)
  | countTimers (elapsed : Option Double)
  | follow (flow : Flow)
  | load (program : List UInt8)
  | reset
  | takePicture
  | renderIfDirty (room : Room) (scale : Int) (scheme : String)

namespace Action

/-- The engine after an action, and what it handed out, if anything. -/
def attempt (e : Engine) : Action → Except Error (Engine × Option Handout)
  | tick kb s elapsed => (e.tick kb elapsed s).result.map (·, none)
  | execute kb s code => (e.execute kb code s).result.map (·, none)
  | countTimers elapsed => (e.countTimers elapsed).map (·, none)
  | follow flow => ((e.proceed flow : Interaction Unit Engine) ()).result.map (·, none)
  | load program => ((e.load program : Interaction Unit Engine) ()).result.map (·, none)
  | reset => .ok (e.reset, none)
  | takePicture =>
    let (machine, picture) := e.machine.takePicture
    .ok ({ e with machine }, some (.picture picture))
  | renderIfDirty room scale scheme =>
    (e.renderIfDirty room scale scheme).map fun (after, frame) =>
      (after, frame.map (.frame room scale scheme))

/-- An engine and what was handed out last, after one more action. -/
def next (x : Engine × Option Handout) (a : Action) : Engine × Option Handout :=
  match a.attempt x.1 with
  | .ok (after, some handout) => (after, some handout)
  | .ok (after, none) => (after, x.2)
  | .error _ => x

end Action

variable {e e' : Engine} {last : Option Handout} {a : Action}

/-- That an engine, if it is clean, shows what was last handed out. -/
def UpToDate (x : Engine × Option Handout) : Prop :=
  x.1.machine.dirty = false → ∃ handout, x.2 = some handout ∧ handout.Shows x.1.machine.picture

/-- What changes nothing that is clean leaves the last frame up to date. -/
theorem UpToDate.cleanSince (hx : UpToDate (e, last)) (h : CleanSince e e') :
    UpToDate (e', last) := by
  intro hclean
  obtain ⟨hclean, hpicture⟩ := h hclean
  obtain ⟨handout, hlast, hshows⟩ := hx hclean
  exact ⟨handout, hlast, hpicture ▸ hshows⟩

theorem eq_ok_of_map_none {x : Except Error Engine}
    (h : x.map (·, (none : Option Handout)) = .ok (e', none)) : x = .ok e' := by
  obtain ⟨after, hx, h⟩ := Except.map_eq_ok_iff.1 h
  cases h
  exact hx

/-- An action that hands something out shows in it the picture that it leaves on the screen. -/
theorem shows_of_attempt {handout : Handout} (h : a.attempt e = .ok (e', some handout)) :
    handout.Shows e'.machine.picture := by
  cases a with
  | takePicture =>
    cases h
    rfl
  | renderIfDirty room scale scheme =>
    obtain ⟨⟨after, frame⟩, hrender, h⟩ := Except.map_eq_ok_iff.1 h
    obtain ⟨_, rfl, rfl⟩ | ⟨_, palette, f, hpalette, hframe, rfl, rfl⟩ :=
      renderIfDirty_eq_ok_iff.1 hrender
    · cases h
    · cases h
      exact ⟨palette, hpalette, hframe⟩
  | reset | follow _ => cases h
  | _ =>
    obtain ⟨after, _, h⟩ := Except.map_eq_ok_iff.1 h
    cases h

/-- An action that hands nothing out draws nothing unmarked. -/
theorem cleanSince_of_attempt (h : a.attempt e = .ok (e', none)) : CleanSince e e' := by
  cases a with
  | takePicture => cases h
  | reset =>
    cases h
    exact cleanSince_reset e
  | renderIfDirty room scale scheme =>
    obtain ⟨⟨after, frame⟩, hrender, h⟩ := Except.map_eq_ok_iff.1 h
    obtain ⟨_, rfl, rfl⟩ | ⟨_, palette, f, _, _, rfl, rfl⟩ := renderIfDirty_eq_ok_iff.1 hrender
    · cases h
      exact .refl e
    · cases h
  | tick kb s elapsed => exact Ticks.cleanSince ⟨_, kb, elapsed, s, eq_ok_of_map_none h⟩
  | execute kb s code => exact cleanSince_of_execute (eq_ok_of_map_none h)
  | countTimers elapsed => exact cleanSince_of_countTimers (eq_ok_of_map_none h)
  | load program => exact cleanSince_of_load (eq_ok_of_map_none h)
  | follow flow =>
    cases h
    exact cleanSince_follow e flow

/-- **Every action** leaves the last frame up to date, also one that fails. -/
theorem UpToDate.next {x : Engine × Option Handout} (hx : UpToDate x) (a : Action) :
    UpToDate (a.next x) := by
  unfold Action.next
  split
  · next hattempt => exact fun _ => ⟨_, rfl, shows_of_attempt hattempt⟩
  · next hattempt => exact hx.cleanSince (cleanSince_of_attempt hattempt)
  · exact hx

theorem UpToDate.foldl {x : Engine × Option Handout} (hx : UpToDate x) (actions : List Action) :
    UpToDate (actions.foldl Action.next x) := by
  induction actions generalizing x with
  | nil => exact hx
  | cons a actions ih => exact ih (hx.next a)

/-- **A clean screen shows what was last handed out.**  After any actions on an engine as it starts,
if its screen is clean then something was handed out before, and of all pictures the last of it
shows just the one on the screen.  So a rendering that hands nothing out conceals no change. -/
theorem clean_shows_last_handout (random : RandomKey) (config : Config) (actions : List Action) :
    let x := actions.foldl Action.next ({ random, config }, none)
    (x.1.machine.dirty = false → ∃ handout, x.2 = some handout ∧
      ∀ p, handout.Shows p ↔ p = x.1.machine.picture) ∧
    ∀ room scale scheme e', x.1.renderIfDirty room scale scheme = .ok (e', none) → e' = x.1 ∧
      ∃ handout, x.2 = some handout ∧ ∀ p, handout.Shows p ↔ p = x.1.machine.picture := by
  intro x
  have hx : UpToDate x := UpToDate.foldl (fun hclean => by cases hclean) actions
  have hlast : x.1.machine.dirty = false → ∃ handout, x.2 = some handout ∧
      ∀ p, handout.Shows p ↔ p = x.1.machine.picture := by
    intro hclean
    obtain ⟨handout, hlast, hshows⟩ := hx hclean
    exact ⟨handout, hlast, fun p => ⟨fun hp => hp.unique hshows, fun hp => hp ▸ hshows⟩⟩
  refine ⟨hlast, fun room scale scheme e' hrender => ?_⟩
  obtain ⟨hclean, rfl, _⟩ | ⟨_, _, _, _, _, _, hsome⟩ := renderIfDirty_eq_ok_iff.1 hrender
  · exact ⟨rfl, hlast hclean⟩
  · cases hsome

/-- A picture taken after a sprite was drawn, and a rendering that then has nothing to do. -/
theorem clean_shows_last_handout_of_draw :
    let x := [Action.execute HeldKey.keyboard { key := none } 0xD125, .takePicture,
      .renderIfDirty .unlimited 2 "amber"].foldl Action.next ({}, none)
    x.1.machine.dirty = false ∧
    (∃ handout, x.2 = some handout ∧ ∀ p, handout.Shows p ↔ p = x.1.machine.picture) ∧
    x.1.renderIfDirty .unlimited 3 "plaid" = .ok (x.1, none) :=
  have h := clean_shows_last_handout {} {} [.execute HeldKey.keyboard { key := none } 0xD125,
    .takePicture, .renderIfDirty .unlimited 2 "amber"]
  ⟨rfl, h.1 rfl, rfl⟩

end Engine

end Chip8
