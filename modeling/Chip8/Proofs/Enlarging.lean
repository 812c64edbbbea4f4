import Mathlib.Tactic.Ring
import Chip8.Proofs.Frame

/-!
# Proofs/Enlarging — what a frame shows where

A frame repeats every pixel of a picture `scale` times to the right and downwards.  So its pixel in
row `r` and column `c` is that of the picture in row `r / scale` and column `c / scale`, and every
`scale`-th pixel of every `scale`-th row makes the frame of scale one (`isEnlargement_enlarge`).

A rendering looks at its arguments in a fixed order: the scale (`renderIn_of_lt`), then the
components of the lit colour and of the dark one (`renderIn_of_wrong`, `exists_renderIn`).  What is
left to go wrong is the room for the frame: its bytes have to be counted in 63 bits, and the
surroundings have to grant the arrays that it takes (`Room.check_eq_ok_iff`).
-/

namespace Chip8

/-! ## Colours from components -/

namespace Color

/-- The components of a colour, as integers. -/
def components (c : Color) : Int × Int × Int := (c.red.toNat, c.green.toNat, c.blue.toNat)

/-- Whether an integer is a byte. -/
def isByte (value : Int) : Bool := 0 ≤ value && value ≤ 255

/-- The first of three components that is not a byte. -/
def wrong? (given : Int × Int × Int) : Option Int :=
  [given.1, given.2.1, given.2.2].find? fun value => !isByte value

/-- What a component that is not a byte is refused for. -/
def refusal (value : Int) : Error :=
  if fitsSigned 64 value then .componentRange value else .tooWide

/-- A component is refused with the same class of error, whatever it is refused for. -/
theorem title_refusal (value : Int) : (refusal value).title = "OverflowError" := by
  unfold refusal
  split <;> rfl

/-- A component is a byte and taken as it is, or it is none and refused. -/
theorem component_cases (value : Int) :
    isByte value = false ∧ component value = .error (refusal value) ∨
      isByte value = true ∧ ∃ byte : UInt8, component value = .ok byte ∧ byte.toNat = value := by
  have hbyte : isByte value = true ↔ 0 ≤ value ∧ value ≤ 255 := by simp [isByte]
  by_cases h : 0 ≤ value ∧ value ≤ 255
  · refine .inr ⟨hbyte.2 h, UInt8.ofNat value.toNat, if_pos h, ?_⟩
    rw [UInt8.toNat_ofNat']
    omega
  · exact .inl ⟨Bool.eq_false_iff.2 (mt hbyte.1 h), if_neg h⟩

/-- The first component that is not a byte is refused; if there is none, they make a colour. -/
theorem ofComponents_cases (given : Int × Int × Int) :
    (∃ value, wrong? given = some value ∧
        ofComponents given.1 given.2.1 given.2.2 = .error (refusal value)) ∨
      wrong? given = none ∧ ∃ c : Color, c.components = given ∧
        ofComponents given.1 given.2.1 given.2.2 = .ok c := by
  obtain ⟨r, g, b⟩ := given
  obtain ⟨hr, hred⟩ | ⟨hr, red, hred, rfl⟩ := component_cases r
  · exact .inl ⟨r, by simp [wrong?, hr], by rw [ofComponents, hred]; rfl⟩
  obtain ⟨hg, hgreen⟩ | ⟨hg, green, hgreen, rfl⟩ := component_cases g
  · exact .inl ⟨g, by simp [wrong?, hr, hg], by rw [ofComponents, hred, hgreen]; rfl⟩
  obtain ⟨hb, hblue⟩ | ⟨hb, blue, hblue, rfl⟩ := component_cases b
  · exact .inl ⟨b, by simp [wrong?, hr, hg, hb], by rw [ofComponents, hred, hgreen, hblue]; rfl⟩
  refine .inr ⟨by simp [wrong?, hr, hg, hb], ⟨red, green, blue⟩, rfl, ?_⟩
  rw [ofComponents, hred, hgreen, hblue]
  rfl

end Color

/-! ## Room -/

namespace Room

variable {room : Room} {rows columns scale : Nat}

/-- That the memory for an enlargement is to be had. -/
structure Grants (room : Room) (rows columns scale : Nat) : Prop where
  picture : room.holds [[rows, columns, 3]] = true
  block : scale ≠ 1 → room.holds [[scale, scale, 1], [rows, columns, 3]] = true
  frame : scale ≠ 1 → room.holds
    [[rows, scale, columns, scale, 3, 1], [scale, scale, 1], [rows, columns, 3]] = true

theorem Grants.one (h : room.Grants rows columns scale) : room.Grants rows columns 1 :=
  ⟨h.picture, fun hone => absurd rfl hone, fun hone => absurd rfl hone⟩

theorem grants_unlimited (rows columns scale : Nat) : unlimited.Grants rows columns scale :=
  ⟨rfl, fun _ => rfl, fun _ => rfl⟩

/-- An array can be had if its sides and its bytes can be counted and the room holds it. -/
theorem take_eq_ok_iff {held : List (List Nat)} {shape : List Nat} {u : Unit} :
    room.take held shape = .ok u ↔ (∀ side ∈ shape, side < sizeLimit) ∧
      shape.foldl (· * ·) 1 < sizeLimit ∧ room.holds (shape :: held) = true := by
  have hsides : shape.any (sizeLimit ≤ ·) = true ↔ ¬ ∀ side ∈ shape, side < sizeLimit := by
    simp [List.any_eq_true]
  simp only [take]
  split
  · next hside => exact iff_of_false (by simp) fun h => hsides.1 hside h.1
  · next hside =>
    split
    · next hcount => exact iff_of_false (by simp) fun h => absurd h.2.1 (Nat.not_lt.2 hcount)
    · next hcount =>
      split
      · next hheld => exact iff_of_true rfl ⟨not_not.1 (mt hsides.2 hside), by omega, hheld⟩
      · next hheld => exact iff_of_false (by simp) fun h => hheld h.2.2

/-- An array that could be had is refused for its size only. -/
theorem title_of_take {held : List (List Nat)} {shape : List Nat} {err : Error}
    (hheld : room.holds (shape :: held) = true) (h : room.take held shape = .error err) :
    err.title = "ValueError" := by
  unfold take at h
  split at h
  · cases h
    rfl
  · split at h
    · cases h
      rfl
    · cases h

/-- If the bytes of an enlarged picture can be counted, so can all that goes into it. -/
theorem parts_lt (hrows : 0 < rows) (hcolumns : 0 < columns) (hs : 0 < scale)
    (hsize : 3 * (rows * scale) * (columns * scale) < sizeLimit) :
    (rows < sizeLimit ∧ columns < sizeLimit ∧ scale < sizeLimit) ∧
      3 * rows * columns < sizeLimit ∧ scale * scale < sizeLimit := by
  have hpos : 0 < 3 * (rows * scale) * (columns * scale) :=
    Nat.mul_pos (Nat.mul_pos (by decide) (Nat.mul_pos hrows hs)) (Nat.mul_pos hcolumns hs)
  have hfits {n : Nat} (hn : n ∣ 3 * (rows * scale) * (columns * scale)) : n < sizeLimit :=
    (Nat.le_of_dvd hpos hn).trans_lt hsize
  exact ⟨⟨hfits (Dvd.intro_left (3 * scale * (columns * scale)) (by ring)),
    hfits (Dvd.intro_left (3 * (rows * scale) * scale) (by ring)),
    hfits (Dvd.intro_left (3 * (rows * scale) * columns) (by ring))⟩,
    hfits (Dvd.intro_left (scale * scale) (by ring)),
    hfits (Dvd.intro_left (3 * rows * columns) (by ring))⟩

/-- **There is room for a picture with pixels** if the bytes of its frame can be counted and the
arrays can be had. -/
theorem check_eq_ok_iff (hrows : 0 < rows) (hcolumns : 0 < columns) (hs : 0 < scale) :
    room.check rows columns scale = .ok () ↔
      3 * (rows * scale) * (columns * scale) < sizeLimit ∧ room.Grants rows columns scale := by
  have hparts := parts_lt hrows hcolumns hs
  have hthree : 3 < sizeLimit := by decide
  have hpicture : [rows, columns, 3].foldl (· * ·) 1 = 3 * rows * columns := by
    simp [Nat.mul_comm, Nat.mul_left_comm, Nat.mul_assoc]
  simp only [check, Except.bind_eq_ok_iff, take_eq_ok_iff, hpicture, List.forall_mem_cons]
  by_cases hone : scale = 1
  · subst hone
    simp only [ne_eq, not_true_eq_false, if_false, Nat.mul_one] at *
    constructor
    · rintro ⟨_, ⟨_, hsize, hheld⟩, _⟩
      exact ⟨hsize, hheld, fun hone => absurd rfl hone, fun hone => absurd rfl hone⟩
    · rintro ⟨hsize, hgrants⟩
      obtain ⟨⟨hheight, hwidth, _⟩, _⟩ := hparts hsize
      exact ⟨(), ⟨⟨hheight, hwidth, hthree, nofun⟩, hsize, hgrants.picture⟩, rfl⟩
  · have hblock : [scale, scale, 1].foldl (· * ·) 1 = scale * scale := by simp
    have hframe : [rows, scale, columns, scale, 3, 1].foldl (· * ·) 1 =
        3 * (rows * scale) * (columns * scale) := by
      simp [Nat.mul_comm, Nat.mul_assoc, Nat.mul_left_comm]
    rw [if_pos hone]
    simp only [Except.bind_eq_ok_iff, take_eq_ok_iff, hblock, hframe, List.forall_mem_cons]
    constructor
    · rintro ⟨_, ⟨_, _, hshown⟩, _, ⟨_, _, hblocked⟩, _, hsize, hheld⟩
      exact ⟨hsize, hshown, fun _ => hblocked, fun _ => hheld⟩
    · rintro ⟨hsize, hgrants⟩
      obtain ⟨⟨hheight, hwidth, hside⟩, hsmall, hsquare⟩ := hparts hsize
      have hlast : 1 < sizeLimit := by decide
      exact ⟨(), ⟨⟨hheight, hwidth, hthree, nofun⟩, hsmall, hgrants.picture⟩, (),
        ⟨⟨hside, hside, hlast, nofun⟩, hsquare, hgrants.block hone⟩,
        ⟨hheight, hside, hwidth, hside, hthree, hlast, nofun⟩, hsize, hgrants.frame hone⟩

/-- What could be had is refused for its size only. -/
theorem title_of_check {err : Error} (hgrants : room.Grants rows columns scale)
    (h : room.check rows columns scale = .error err) : err.title = "ValueError" := by
  rw [check, Except.bind_eq_error_iff] at h
  obtain hpicture | ⟨_, _, h⟩ := h
  · exact title_of_take hgrants.picture hpicture
  split at h
  · next hone =>
    obtain hblock | ⟨_, _, h⟩ := Except.bind_eq_error_iff.1 h
    · exact title_of_take (hgrants.block hone) hblock
    · exact title_of_take (hgrants.frame hone) h
  · cases h

end Room

namespace Frame

/-! ## Pixels of an enlarged picture -/

/-- Every `step`-th element of a list, when some elements are to be skipped first. -/
def everyNth {α : Type} (step : Nat) : Nat → List α → List α
  | _, [] => []
  | 0, x :: xs => x :: everyNth step (step - 1) xs
  | skip + 1, _ :: xs => everyNth step skip xs

/-- Every `step`-th pixel of every `step`-th row of a frame. -/
def sample (f : Frame) (step : Nat) : Frame :=
  ⟨(everyNth step 0 f.rows).map (everyNth step 0)⟩

/-- The pixel of a frame in a row and a column. -/
def pixel? (f : Frame) (r c : Nat) : Option Color := f.rows[r]?.bind (·[c]?)

/-- Which pixels of a frame have a colour. -/
def inColor (f : Frame) (color : Color) : List (List Bool) :=
  f.rows.map fun row => row.map fun c => decide (c = color)

/-- The bit of a picture in a row and a column. -/
def bit? (bits : List (List Bool)) (r c : Nat) : Option Bool := bits[r]?.bind (·[c]?)

variable {α : Type} {scale h w : Nat} {palette : Palette} {bits : List (List Bool)}

/-- Taking every so many leaves out what stands before the next. -/
theorem everyNth_skip (step k : Nat) (x : α) (rest : List α) :
    everyNth step k (List.replicate k x ++ rest) = everyNth step 0 rest := by
  induction k with
  | zero => rfl
  | succ k ih => rw [List.replicate_succ, List.cons_append, everyNth, ih]

/-- Every `scale`-th element of a stretched list is the list. -/
theorem everyNth_stretch (hs : 0 < scale) (xs : List α) :
    everyNth scale 0 (stretch scale xs) = xs := by
  obtain ⟨n, rfl⟩ := Nat.exists_eq_add_one.2 hs
  induction xs with
  | nil => rfl
  | cons x xs ih =>
    have hfirst : stretch (n + 1) (x :: xs) = x :: (List.replicate n x ++ stretch (n + 1) xs) := rfl
    rw [hfirst, everyNth, Nat.add_sub_cancel, everyNth_skip, ih]

/-- At scale one a list stays as it is. -/
theorem stretch_one (xs : List α) : stretch 1 xs = xs := by
  induction xs with
  | nil => rfl
  | cons x xs ih => exact congrArg (x :: ·) ih

/-- At scale one a frame shows the picture itself. -/
theorem enlarge_one (bits : List (List Bool)) (palette : Palette) :
    enlarge bits 1 palette = ⟨bits.map (·.map palette.color)⟩ := by
  simp only [enlarge, stretch_one]

/-- That a frame shows a picture of `h` rows and `w` columns at a scale. -/
structure IsEnlargement (bits : List (List Bool)) (h w scale : Nat) (palette : Palette)
    (f : Frame) : Prop where
  length_rows : f.rows.length = h * scale
  length_row : ∀ row ∈ f.rows, row.length = w * scale
  pixel?_eq : ∀ r c, f.pixel? r c = (bit? bits (r / scale) (c / scale)).map palette.color
  sample_eq : f.sample scale = ⟨bits.map (·.map palette.color)⟩
  inColor_sample : palette.on ≠ palette.off → (f.sample scale).inColor palette.on = bits

/-- **An enlarged picture shows the picture**, each of its pixels `scale` by `scale` times. -/
theorem isEnlargement_enlarge (hs : 0 < scale) (hh : bits.length = h)
    (hw : ∀ row ∈ bits, row.length = w) :
    IsEnlargement bits h w scale palette (enlarge bits scale palette) := by
  have hsample : (enlarge bits scale palette).sample scale = ⟨bits.map (·.map palette.color)⟩ := by
    simp only [sample, enlarge, everyNth_stretch hs, List.map_map, Function.comp_def]
  refine ⟨?_, fun row hrow => ?_, fun r c => ?_, hsample, fun hcolors => ?_⟩
  · rw [enlarge, length_stretch, List.length_map, hh, Nat.mul_comm]
  · obtain ⟨line, hline, hcopy⟩ := List.mem_flatMap.1 hrow
    obtain ⟨bits', hbits, rfl⟩ := List.mem_map.1 hline
    rw [List.eq_of_mem_replicate hcopy, length_stretch, List.length_map, hw _ hbits, Nat.mul_comm]
  · simp only [pixel?, enlarge, bit?, getElem?_stretch _ _ _ hs, List.getElem?_map]
    cases bits[r / scale]? with
    | none => rfl
    | some row => simp [getElem?_stretch _ _ _ hs]
  · have hlit : ∀ bit, decide (palette.color bit = palette.on) = bit := by
      intro bit
      cases bit with
      | true => exact decide_eq_true rfl
      | false => exact decide_eq_false hcolors.symm
    simp only [hsample, inColor, List.map_map, Function.comp_def, hlit, List.map_id']

/-! ## Renderings -/

variable {room : Room} {on off : Int × Int × Int}

/-- A scale below one is refused before anything else is looked at. -/
theorem renderIn_of_lt {s : Int} (hs : s < 1) (room : Room) (bits : List (List Bool))
    (on off : Int × Int × Int) : renderIn room bits s on off = .error (.scaleRange s) := by
  rw [renderIn, checkScale, if_pos hs]
  rfl

theorem checkScale_of_pos (hs : 0 < scale) : checkScale scale = .ok scale := if_neg (by omega)

/-- The lit colour is looked at before the dark one. -/
theorem renderIn_of_wrong (hs : 0 < scale) {value : Int}
    (hwrong : (Color.wrong? on).or (Color.wrong? off) = some value) (room : Room)
    (bits : List (List Bool)) :
    renderIn room bits scale on off = .error (Color.refusal value) := by
  rw [renderIn, checkScale_of_pos hs, Except.ok_bind]
  obtain ⟨first, hfirst, hon⟩ | ⟨hnone, lit, _, hon⟩ := Color.ofComponents_cases on
  · rw [hfirst, Option.some_or, Option.some.injEq] at hwrong
    rw [hon, ← hwrong]
    rfl
  · rw [hnone, Option.none_or] at hwrong
    obtain ⟨first, hfirst, hoff⟩ | ⟨hnone', _⟩ := Color.ofComponents_cases off
    · rw [hfirst, Option.some.injEq] at hwrong
      rw [hon, Except.ok_bind, hoff, ← hwrong]
      rfl
    · rw [hnone'] at hwrong
      cases hwrong

/-- Components that are bytes make a palette, and a picture is built in it. -/
theorem exists_renderIn (hright : (Color.wrong? on).or (Color.wrong? off) = none) :
    ∃ palette : Palette, palette.on.components = on ∧ palette.off.components = off ∧
      ∀ (room : Room) (bits : List (List Bool)) (scale : Nat), 0 < scale →
        renderIn room bits scale on off = build room bits scale palette := by
  obtain ⟨hon, hoff⟩ := Option.or_eq_none_iff.1 hright
  obtain ⟨_, hsome, _⟩ | ⟨_, lit, hlit, hon'⟩ := Color.ofComponents_cases on
  · cases hon.symm.trans hsome
  obtain ⟨_, hsome, _⟩ | ⟨_, dark, hdark, hoff'⟩ := Color.ofComponents_cases off
  · cases hoff.symm.trans hsome
  refine ⟨⟨lit, dark⟩, hlit, hdark, fun room bits scale hs => ?_⟩
  rw [renderIn, checkScale_of_pos hs, Except.ok_bind, hon', Except.ok_bind, hoff', Except.ok_bind]

theorem length_headD {rows : List (List α)} (hw : ∀ row ∈ rows, row.length = w) (hne : rows ≠ []) :
    (rows.headD []).length = w := by
  obtain ⟨row, rest, rfl⟩ := List.exists_cons_of_ne_nil hne
  exact hw row List.mem_cons_self

/-- Rows of one length pass the check. -/
theorem checkRows_of_rectangle (hw : ∀ row ∈ bits, row.length = w) (hne : bits ≠ []) :
    checkRows bits = .ok () := by
  refine if_pos (List.all_eq_true.2 fun row hrow => ?_)
  exact decide_eq_true ((hw row hrow).trans (length_headD hw hne).symm)

/-- **A picture from outside is shown**, if it has pixels, in rows of equal length.  A scale below
one is refused whatever the colours are, then the first component that is not a byte.  Otherwise,
given the memory that is asked for, the frame is the enlarged picture as long as its bytes can be
counted, and every `s`-th pixel of it makes the frame of scale one; a larger frame is refused. -/
theorem request_of_rectangle (room : Room) (hh : bits.length = h)
    (hw : ∀ row ∈ bits, row.length = w) (hrows : 0 < h) (hcolumns : 0 < w)
    (on off : Int × Int × Int) :
    (∀ s < 1, request room bits s on off = .error (.scaleRange s) ∧
      (Error.scaleRange s).title = "ValueError") ∧
    (∀ value, (Color.wrong? on).or (Color.wrong? off) = some value → ∀ s : Nat, 0 < s →
      request room bits s on off = .error (Color.refusal value) ∧
        (Color.refusal value).title = "OverflowError") ∧
    ((Color.wrong? on).or (Color.wrong? off) = none →
      ∃ palette : Palette, palette.on.components = on ∧ palette.off.components = off ∧
        ∀ s : Nat, 0 < s → ∃ f : Frame, IsEnlargement bits h w s palette f ∧
          (∀ g, request room bits s on off = .ok g → g = f ∧ 3 * (h * s) * (w * s) < sizeLimit) ∧
          (room.Grants h w s →
            (3 * (h * s) * (w * s) < sizeLimit → request room bits s on off = .ok f ∧
              request room bits 1 on off = .ok (f.sample s)) ∧
            (sizeLimit ≤ 3 * (h * s) * (w * s) → ∃ err, request room bits s on off = .error err ∧
              err.title = "ValueError"))) := by
  have hbits : bits ≠ [] := List.ne_nil_of_length_pos (by omega)
  have hcheck : checkRows bits = .ok () := checkRows_of_rectangle hw hbits
  have hrequest : ∀ s, request room bits s on off = renderIn room bits s on off := by
    intro s
    rw [request, hcheck, Except.ok_bind]
  simp only [hrequest]
  refine ⟨fun s hs => ⟨renderIn_of_lt hs room bits on off, rfl⟩, fun value hwrong s hs =>
    ⟨renderIn_of_wrong hs hwrong room bits, Color.title_refusal value⟩, fun hright => ?_⟩
  obtain ⟨palette, hon, hoff, hrender⟩ := exists_renderIn hright
  refine ⟨palette, hon, hoff, fun s hs => ⟨enlarge bits s palette, ?_⟩⟩
  have hf : IsEnlargement bits h w s palette (enlarge bits s palette) :=
    isEnlargement_enlarge hs hh hw
  have hbuild : ∀ scale : Nat, 0 < scale → renderIn room bits scale on off =
      room.check h w scale >>= fun _ => .ok (enlarge bits scale palette) := by
    intro scale hscale
    rw [hrender room bits scale hscale, build_of_ne_nil hbits, hh, length_headD hw hbits]
  have hone := hbuild 1 Nat.one_pos
  rw [Nat.cast_one] at hone
  rw [hbuild s hs, hone, hf.sample_eq, ← enlarge_one]
  refine ⟨hf, fun g hg => ?_, fun hgrants => ⟨fun hsize => ?_, fun hsize => ?_⟩⟩
  · obtain ⟨_, hroom, hg⟩ := Except.bind_eq_ok_iff.1 hg
    exact ⟨(Except.ok.inj hg).symm, ((Room.check_eq_ok_iff hrows hcolumns hs).1 hroom).1⟩
  · have hsmaller : 3 * (h * 1) * (w * 1) ≤ 3 * (h * s) * (w * s) := by gcongr <;> omega
    rw [(Room.check_eq_ok_iff hrows hcolumns hs).2 ⟨hsize, hgrants⟩,
      (Room.check_eq_ok_iff hrows hcolumns Nat.one_pos).2
        ⟨Nat.lt_of_le_of_lt hsmaller hsize, hgrants.one⟩]
    exact ⟨rfl, rfl⟩
  · cases hroom : room.check h w s with
    | error err => exact ⟨err, rfl, Room.title_of_check hgrants hroom⟩
    | ok =>
      have hcounted := ((Room.check_eq_ok_iff hrows hcolumns hs).1 hroom).1
      exact absurd hcounted (Nat.not_lt.2 hsize)

/-- A picture of two lit pixels: nine times as large, at a scale of zero, and in a colour that has a
component below zero. -/
theorem request_of_rectangle_of_diagonal :
    (∃ palette f, palette.on.components = (0, 255, 0) ∧ palette.off.components = (0, 0, 0) ∧
      IsEnlargement [[true, false], [false, true]] 2 2 3 palette f ∧
      request .unlimited [[true, false], [false, true]] 3 (0, 255, 0) (0, 0, 0) = .ok f) ∧
    request .unlimited [[true, false], [false, true]] 0 (0, 256, 0) (0, 0, 0) =
      .error (.scaleRange 0) ∧
    request .unlimited [[true, false], [false, true]] 3 (0, 255, 0) (0, -1, 256) =
      .error (.componentRange (-1)) := by
  have hrows : [[true, false], [false, true]].length = 2 := rfl
  have hcolumns : ∀ row ∈ [[true, false], [false, true]], row.length = 2 := by decide
  have hpicture := request_of_rectangle .unlimited hrows hcolumns (by decide) (by decide)
  refine ⟨?_, ((hpicture _ _).1 0 (by decide)).1, ?_⟩
  · obtain ⟨palette, hon, hoff, hframe⟩ := (hpicture (0, 255, 0) (0, 0, 0)).2.2 (by decide)
    obtain ⟨f, hshows, _, hgranted⟩ := hframe 3 (by decide)
    have hroom := (hgranted (Room.grants_unlimited 2 2 3)).1 (by decide)
    exact ⟨palette, f, hon, hoff, hshows, hroom.1⟩
  · exact ((hpicture (0, 255, 0) (0, -1, 256)).2.1 (-1) (by decide) 3 (by decide)).1

/-- However much memory there is, no pixel becomes a square of more pixels than 63 bits count. -/
theorem not_exists_request_of_large :
    ¬ ∃ room f, request room [[true, false]] 3037000500 (0, 255, 0) (0, 0, 0) = .ok f := by
  rintro ⟨room, f, hf⟩
  obtain ⟨palette, _, _, hrender⟩ :=
    @exists_renderIn (0, 255, 0) (0, 0, 0) (by decide)
  have hbuild : build room [[true, false]] 3037000500 palette = .ok f :=
    (hrender room [[true, false]] 3037000500 (by decide)).symm.trans hf
  rw [build_of_ne_nil (List.cons_ne_nil _ _)] at hbuild
  obtain ⟨_, hroom, _⟩ := Except.bind_eq_ok_iff.1 hbuild
  have hcounted := ((Room.check_eq_ok_iff (by decide) (by decide) (by decide)).1 hroom).1
  exact absurd hcounted (by decide)

end Frame

end Chip8
