import Chip8.Display.Frame
import Chip8.Proofs.Result

/-!
# Proofs/Frame — a frame shows one picture and no other

A frame repeats every pixel of a picture, so every `scale`-th pixel of every `scale`-th row gives
the picture back, provided that the two colours differ.  They do in every named palette; so a frame
that a rendering hands out tells which picture was on the screen (`render_inj`).
-/

namespace Chip8

namespace Frame

variable {scale : Nat} {palette : Palette} {bits bits' : List (List Bool)}

/-! ## Back from the frame to the picture -/

/-- A list is told by its entries repeated. -/
theorem stretch_inj {α : Type} {xs ys : List α} (hs : 0 < scale) :
    stretch scale xs = stretch scale ys ↔ xs = ys := by
  refine ⟨fun h => List.ext_getElem? fun i => ?_, congrArg _⟩
  have hi := congrArg (·[i * scale]?) h
  simpa only [getElem?_stretch _ _ _ hs, Nat.mul_div_cancel _ hs] using hi

/-- **A frame in two colours tells the picture.** -/
theorem enlarge_inj (hs : 0 < scale) (hcolors : palette.on ≠ palette.off) :
    enlarge bits scale palette = enlarge bits' scale palette ↔ bits = bits' := by
  have hcolor : ∀ a b, palette.color a = palette.color b → a = b := by
    intro a b h
    cases a <;> cases b <;> simp_all [Palette.color, eq_comm]
  have hrow : ∀ row row' : List Bool, stretch scale (row.map palette.color) =
      stretch scale (row'.map palette.color) → row = row' := by
    intro row row' h
    exact (List.map_inj_right hcolor).1 ((stretch_inj hs).1 h)
  rw [enlarge, enlarge, mk.injEq, stretch_inj hs, List.map_inj_right hrow]

end Frame

/-- A picture is told by its rows. -/
theorem Picture.toRows_inj {p q : Picture} : p.toRows = q.toRows ↔ p = q := by
  refine ⟨fun h => Vector.toList_inj.1 ((List.map_inj_right fun row row' h => ?_).1 h), congrArg _⟩
  refine BitVec.eq_of_getMsbD_eq fun i hi => ?_
  have hbit := congrArg (·[i]?) h
  simpa [hi] using hbit

theorem Picture.toRows_ne_nil (p : Picture) : p.toRows ≠ [] := by
  refine List.ne_nil_of_length_pos ?_
  rw [toRows, List.length_map, Vector.length_toList]
  decide

theorem mem_of_lookup {α β : Type} [BEq α] [LawfulBEq α] {a : α} {b : β} {l : List (α × β)}
    (h : l.lookup a = some b) : (a, b) ∈ l := by
  obtain ⟨before, after, rfl, _⟩ := List.lookup_eq_some_iff.1 h
  exact List.mem_append_right _ (List.mem_cons_self ..)

/-- The colours of a named palette differ. -/
theorem Palette.on_ne_off_of_parse {name : String} {palette : Palette}
    (h : Palette.parse name = .ok palette) : palette.on ≠ palette.off := by
  have hall : ∀ scheme ∈ schemes, scheme.2.on ≠ scheme.2.off := by decide
  unfold parse at h
  split at h
  · next hfound =>
    cases h
    exact hall (name, palette) (mem_of_lookup hfound)
  · cases h

/-! ## Renderings -/

namespace Frame

variable {room : Room} {scale : Int} {palette : Palette} {bits : List (List Bool)} {f : Frame}
  {p q : Picture}

/-- A picture with rows is enlarged if there is room for it. -/
theorem build_of_ne_nil (hbits : bits ≠ []) (room : Room) (scale : Nat) (palette : Palette) :
    build room bits scale palette =
      room.check bits.length (bits.headD []).length scale >>= fun _ =>
        .ok (enlarge bits scale palette) := by
  rw [build, if_neg (by simp [hbits])]
  rfl

/-- A frame is the enlarged picture, if the scale is one at all and there is room. -/
theorem render_eq_ok_iff (hbits : bits ≠ []) : render room bits scale palette = .ok f ↔
    1 ≤ scale ∧ room.check bits.length (bits.headD []).length scale.toNat = .ok () ∧
      enlarge bits scale.toNat palette = f := by
  unfold render checkScale
  split
  · simp [bind, Except.bind]
    omega
  · simp only [Except.ok_bind, build_of_ne_nil hbits, Except.bind_eq_ok_iff, Except.ok.injEq]
    constructor
    · rintro ⟨_, hroom, hf⟩
      exact ⟨by omega, hroom, hf⟩
    · rintro ⟨_, hroom, hf⟩
      exact ⟨_, hroom, hf⟩

/-- **A frame in the colours of a named palette shows one picture.** -/
theorem render_inj {name : String} (hpalette : Palette.parse name = .ok palette)
    (hp : render room p.toRows scale palette = .ok f)
    (hq : render room q.toRows scale palette = .ok f) : p = q := by
  obtain ⟨hscale, _, hp⟩ := (render_eq_ok_iff p.toRows_ne_nil).1 hp
  obtain ⟨_, _, hq⟩ := (render_eq_ok_iff q.toRows_ne_nil).1 hq
  have hcolors := Palette.on_ne_off_of_parse hpalette
  exact Picture.toRows_inj.1 ((enlarge_inj (by omega) hcolors).1 (hp.trans hq.symm))

end Frame

/-- **A rendering on demand** leaves a clean engine as it is; otherwise it hands out the frame of
what is on the screen, and leaves the engine clean. -/
theorem Engine.renderIfDirty_eq_ok_iff {e e' : Engine} {room : Room} {scale : Int} {scheme : String}
    {frame : Option Frame} : e.renderIfDirty room scale scheme = .ok (e', frame) ↔
      e.machine.dirty = false ∧ e = e' ∧ none = frame ∨
      e.machine.dirty = true ∧ ∃ palette f, Palette.parse scheme = .ok palette ∧
        e.frame room scale palette = .ok f ∧ { e with machine.dirty := false } = e' ∧
          some f = frame := by
  unfold renderIfDirty Engine.frame Machine.takePicture
  cases e.machine.dirty with
  | false => simp
  | true =>
    simp only [if_true, Except.bind_eq_ok_iff, pure, Except.pure, Except.ok.injEq, Prod.mk.injEq]
    grind

end Chip8
