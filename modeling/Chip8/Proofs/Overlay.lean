import Chip8.Machine.Host
import Chip8.Proofs.Stamp

/-!
# Proofs/Overlay — sprites drawn one after another

To draw is to combine the screen with a picture that does not depend on the screen.  So what a list
of draws does to the screen is one picture, too, the overlay of its stamps (`drawEach_of_fits`).  As
the exclusive "or" makes pictures an abelian group in which each is its own inverse, an overlay does
not depend on the order of its stamps, and two equal ones cancel.

Whether a draw erases a lit pixel does depend on the screen.  A draw that is repeated at once finds
exactly those pixels lit that were dark before, among those it covers.
-/

namespace Chip8

/-- A sprite, and the place where a host draws it. -/
structure Placement where
  x : Int
  y : Int
  sprite : Sprite

namespace Placement

/-- That a place is given in numbers of 32 bits, and the sprite is not taller than the screen. -/
structure Fits (d : Placement) : Prop where
  x_fits : fitsSigned 32 d.x
  y_fits : fitsSigned 32 d.y
  height_le : d.sprite.length ≤ screenHeight

/-- The sprite at its place on an empty screen. -/
def stamp (d : Placement) : Picture := d.sprite.stamp d.x d.y

/-- That a set pixel of the sprite falls on a pixel of the screen. -/
def Covers (d : Placement) (px : Fin screenWidth) (py : Fin screenHeight) : Prop :=
  d.sprite.Covers d.x d.y px py

/-- The picture that sprites make on an empty screen. -/
def overlay (ds : List Placement) : Picture := ds.foldr (fun d p => d.stamp.xor p) .blank

variable {d : Placement} {ds ds' : List Placement}

theorem overlay_cons (d : Placement) (ds : List Placement) :
    overlay (d :: ds) = d.stamp.xor (overlay ds) := rfl

theorem overlay_append (ds ds' : List Placement) :
    overlay (ds ++ ds') = (overlay ds).xor (overlay ds') := by
  induction ds with
  | nil => rw [List.nil_append, Picture.xor_comm]; exact (Picture.xor_blank _).symm
  | cons d ds ih => rw [List.cons_append, overlay_cons, overlay_cons, ih, Picture.xor_assoc]

/-- **The order of the sprites does not matter.** -/
theorem overlay_perm (h : ds.Perm ds') : overlay ds = overlay ds' := by
  refine h.foldr_eq' (fun d _ d' _ p => ?_) _
  rw [← Picture.xor_assoc, ← Picture.xor_assoc, Picture.xor_comm d.stamp]

/-- Every pixel of a sprite falls on some pixel of the screen. -/
theorem exists_fallsOn (d : Placement) (r : Nat) {c : Nat} (hc : c < 8) :
    ∃ px py, Sprite.FallsOn d.x d.y r c px py := by
  have hwidth : (screenWidth : Int) ≠ 0 := by decide
  have hheight : (screenHeight : Int) ≠ 0 := by decide
  have hx := Int.emod_nonneg (d.x + c) hwidth
  have hx' := Int.emod_lt (d.x + c) hwidth
  have hy := Int.emod_nonneg (d.y + r) hheight
  have hy' := Int.emod_lt (d.y + r) hheight
  refine ⟨⟨((d.x + c) % screenWidth).toNat, by omega⟩,
    ⟨((d.y + r) % screenHeight).toNat, by omega⟩, hc, ?_, ?_⟩
  · exact (Int.toNat_of_nonneg hy).symm
  · exact (Int.toNat_of_nonneg hx).symm

/-- A sprite covers something exactly if it has a set pixel. -/
theorem exists_covers_iff :
    (∃ px py, d.Covers px py) ↔ ∃ bits ∈ d.sprite, ∃ c < 8, Sprite.bit bits c = true := by
  constructor
  · rintro ⟨px, py, r, c, bits, hbits, hfalls, hbit⟩
    exact ⟨bits, List.mem_of_getElem? hbits, c, hfalls.1, hbit⟩
  · rintro ⟨bits, hmem, c, hc, hbit⟩
    obtain ⟨r, hbits⟩ := List.getElem?_of_mem hmem
    obtain ⟨px, py, hfalls⟩ := d.exists_fallsOn r hc
    exact ⟨px, py, r, c, bits, hbits, hfalls, hbit⟩

/-! ## Collisions -/

theorem collides_iff (d : Placement) (p : Picture) : d.sprite.collides d.x d.y p = true ↔
    ∃ px py, d.Covers px py ∧ p.pixel px py = true := Sprite.collides_iff p

/-- A draw that is repeated at once finds lit what was dark. -/
theorem collides_xor_stamp_iff (h : d.Fits) (p : Picture) :
    d.sprite.collides d.x d.y (p.xor d.stamp) = true ↔
      ∃ px py, d.Covers px py ∧ p.pixel px py = false := by
  have hturned {px py} (hcovers : d.Covers px py) :
      (p.xor d.stamp).pixel px py = true ↔ p.pixel px py = false := by
    have hstamp : d.stamp.pixel px py = true := (Sprite.pixel_stamp h.height_le).2 hcovers
    rw [Picture.pixel_xor, hstamp, Bool.xor_true, Bool.not_eq_true']
  rw [collides_iff]
  simp only [and_congr_right_iff.2 hturned]

/-- **A draw that is repeated at once** collides one time or the other, if it covers a pixel at
all. -/
theorem collides_or_iff (h : d.Fits) (p : Picture) :
    d.sprite.collides d.x d.y p = true ∨ d.sprite.collides d.x d.y (p.xor d.stamp) = true ↔
      ∃ px py, d.Covers px py := by
  rw [collides_iff, collides_xor_stamp_iff h]
  constructor
  · rintro (⟨px, py, hcovers, _⟩ | ⟨px, py, hcovers, _⟩)
    · exact ⟨px, py, hcovers⟩
    · exact ⟨px, py, hcovers⟩
  · rintro ⟨px, py, hcovers⟩
    cases hlit : p.pixel px py with
    | true => exact .inl ⟨px, py, hcovers, hlit⟩
    | false => exact .inr ⟨px, py, hcovers, hlit⟩

end Placement

namespace Machine

open Placement

variable {d : Placement} {ds : List Placement}

/-- The machine after draws, one after another. -/
def drawEach (m : Machine) (ds : List Placement) : Except Error Machine :=
  ds.foldlM (fun m d => (m.drawAt d.x d.y d.sprite).map (·.1)) m

/-- A draw that fits combines the screen with its stamp, and reports whether it collided. -/
theorem drawAt_placement (m : Machine) (h : d.Fits) : m.drawAt d.x d.y d.sprite =
    .ok ({ m with picture := m.picture.xor d.stamp, dirty := true },
      d.sprite.collides d.x d.y m.picture) :=
  drawAt_of_fits m d.x d.y d.sprite h.x_fits h.y_fits

/-- **Draws come to their overlay**, which is combined with the screen. -/
theorem drawEach_of_fits (m : Machine) (h : ∀ d ∈ ds, d.Fits) : m.drawEach ds =
    .ok { m with picture := m.picture.xor (overlay ds), dirty := m.dirty || !ds.isEmpty } := by
  induction ds generalizing m with
  | nil =>
    have hpicture : m.picture.xor (overlay []) = m.picture := Picture.xor_blank _
    simp only [hpicture, List.isEmpty_nil, Bool.not_true, Bool.or_false]
    rfl
  | cons d ds ih =>
    obtain ⟨hd, hds⟩ := List.forall_mem_cons.1 h
    have hfirst : (m.drawAt d.x d.y d.sprite).map (·.1) =
        .ok { m with picture := m.picture.xor d.stamp, dirty := true } := by
      rw [m.drawAt_placement hd]
      rfl
    rw [drawEach, List.foldlM_cons, hfirst, Except.ok_bind, ← drawEach, ih _ hds, overlay_cons,
      Picture.xor_assoc]
    simp

/-- **Draws act on the screen as an abelian group does**, and each is its own inverse.  A list of
draws has one outcome in whatever order they are made, and to make them all once more gives the
screen back.  If one of them is made twice in a row, the first time it reports whether a set pixel
fell on a lit one, and the second time whether one fell on a pixel that had been dark; so it reports
something exactly if the sprite has a set pixel at all. -/
theorem draws_commute_and_cancel (m : Machine) (h : ∀ d ∈ ds, d.Fits) :
    (∃ after, m.drawEach ds = .ok after ∧ (∀ ds', ds.Perm ds' → m.drawEach ds' = .ok after) ∧
      ∃ again, m.drawEach (ds ++ ds) = .ok again ∧ again.picture = m.picture) ∧
    ∀ d ∈ ds, ∃ after again first second, m.drawAt d.x d.y d.sprite = .ok (after, first) ∧
      after.drawAt d.x d.y d.sprite = .ok (again, second) ∧
      (first = true ↔ ∃ px py, d.Covers px py ∧ m.picture.pixel px py = true) ∧
      (second = true ↔ ∃ px py, d.Covers px py ∧ m.picture.pixel px py = false) ∧
      (first = true ∨ second = true ↔
        ∃ bits ∈ d.sprite, ∃ c < 8, Sprite.bit bits c = true) := by
  have htwice : ∀ d ∈ ds ++ ds, d.Fits := fun d hd => (List.mem_append.1 hd).elim (h d) (h d)
  refine ⟨⟨_, m.drawEach_of_fits h, fun ds' hperm => ?_, _, m.drawEach_of_fits htwice, ?_⟩,
    fun d hd => ?_⟩
  · have h' : ∀ d ∈ ds', d.Fits := fun d hd => h d (hperm.mem_iff.2 hd)
    rw [m.drawEach_of_fits h', overlay_perm hperm, hperm.isEmpty_eq]
  · change m.picture.xor (overlay (ds ++ ds)) = m.picture
    rw [overlay_append, Picture.xor_self, Picture.xor_blank]
  · have hfits := h d hd
    exact ⟨_, _, _, _, m.drawAt_placement hfits, drawAt_placement _ hfits,
      collides_iff d m.picture, collides_xor_stamp_iff hfits m.picture,
      (collides_or_iff hfits m.picture).trans exists_covers_iff⟩

/-- Two sprites that overlap across the corner, one of them placed beyond it on the other side. -/
theorem draws_commute_and_cancel_of_corner :
    let d : Placement := ⟨62, -1, [0x81, 0xF0]⟩
    let d' : Placement := ⟨-70, 0x7FFFFFFF, [0xFF, 0x18]⟩
    (∀ c ∈ [d, d'], c.Fits) ∧ (∃ after, ({} : Machine).drawEach [d, d'] = .ok after ∧
      ({} : Machine).drawEach [d', d] = .ok after) ∧
    ∃ after again, ({} : Machine).drawAt d.x d.y d.sprite = .ok (after, false) ∧
      after.drawAt d.x d.y d.sprite = .ok (again, true) := by
  intro d d'
  have hfits : ∀ c ∈ [d, d'], c.Fits := by
    simp only [List.forall_mem_cons]
    exact ⟨⟨by decide, by decide, by decide⟩, ⟨by decide, by decide, by decide⟩, by simp⟩
  obtain ⟨⟨after, hafter, hperm, _⟩, htwice⟩ := draws_commute_and_cancel {} hfits
  obtain ⟨after', again, first, second, hfirst, hsecond, hlit, hdark, hsome⟩ :=
    htwice d (List.mem_cons_self ..)
  have hclean : first = false := by
    rw [Bool.eq_false_iff]
    intro hhit
    obtain ⟨px, py, _, hpixel⟩ := hlit.1 hhit
    cases (Picture.pixel_blank px py).symm.trans hpixel
  have hagain : second = true := by
    have hset : ∃ bits ∈ d.sprite, ∃ c < 8, Sprite.bit bits c = true :=
      ⟨0x81, List.mem_cons_self .., 0, by decide, by decide⟩
    exact (hsome.2 hset).resolve_left (Bool.eq_false_iff.1 hclean)
  subst hclean hagain
  exact ⟨hfits, ⟨after, hafter, hperm _ (.swap ..)⟩, after', again, hfirst, hsecond⟩

end Machine

end Chip8
