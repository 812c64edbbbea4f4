import Mathlib.Data.List.Induction
import Chip8.Proofs.Form
import Chip8.Proofs.Writes

/-!
# Proofs/Stamp — the pixels of a sprite on the screen

The picture that a sprite makes on an empty screen is put together from rotated rows.  Seen from its
pixels it is simple: pixel `c` of row `r` lies `c` columns and `r` rows behind the place where the
sprite is drawn, around the edges if need be (`Sprite.FallsOn`), and a pixel of the screen is lit if
a set pixel of the sprite falls on it (`pixel_stamp`).  A sprite that is not taller than the screen
has at most one pixel for each pixel of the screen, so no row covers another one.

From this the instruction that draws is described pixel by pixel (`Engine.execute_draw`).
-/

namespace Chip8

namespace Sprite

variable {x y : Int} {s : Sprite} {bits : UInt8} {r r' c c' row : Nat} {px : Fin screenWidth}
  {py : Fin screenHeight}

/-- That pixel `c` of row `r` of a sprite falls on a pixel of the screen. -/
def FallsOn (x y : Int) (r c : Nat) (px : Fin screenWidth) (py : Fin screenHeight) : Prop :=
  c < 8 ∧ (y + r) % screenHeight = py ∧ (x + c) % screenWidth = px

/-- Whether pixel `c` of a row is set; the leftmost is the highest bit. -/
def bit (bits : UInt8) (c : Nat) : Bool := bits.toNat.testBit (7 - c)

/-- That a set pixel of a sprite falls on a pixel of the screen. -/
def Covers (x y : Int) (s : Sprite) (px : Fin screenWidth) (py : Fin screenHeight) : Prop :=
  ∃ r c bits, s[r]? = some bits ∧ FallsOn x y r c px py ∧ bit bits c

/-- On one pixel of the screen falls at most one pixel of a sprite. -/
theorem fallsOn_unique (h : FallsOn x y r c px py) (h' : FallsOn x y r' c' px py)
    (hr : r < screenHeight) (hr' : r' < screenHeight) : r = r' ∧ c = c' := by
  unfold FallsOn screenHeight screenWidth at *
  omega

/-! ## Rows -/

/-- A row turned to the right has in column `i` what it had in column `c`. -/
theorem getMsbD_rotateRight {w turn i : Nat} (line : BitVec w) (hturn : turn < w) (hc : c < w)
    (hi : i < w) (h : turn + c = i ∨ turn + c = i + w) :
    (line.rotateRight turn).getMsbD i = line.getMsbD c := by
  rw [BitVec.getMsbD_rotateRight_of_lt hturn, Nat.mod_eq_of_lt hturn, decide_eq_true hi,
    Bool.true_and]
  split
  · have hplace : (w + i - turn) % w = c := by
      rw [Nat.mod_eq_of_lt (by omega)]
      omega
    rw [hplace]
  · have hplace : i - turn = c := by omega
    rw [hplace]

/-- A row of a sprite has its pixels behind its left end, and is dark from the ninth on. -/
theorem getMsbD_stampRow (hc : c < screenWidth) (hx : (x + c) % screenWidth = px) :
    (stampRow x bits).getMsbD px = (decide (c < 8) && bit bits c) := by
  have hwidth : (screenWidth : Int) = 64 := rfl
  have hlit : screenWidth = 64 := rfl
  have hpx := px.isLt
  rw [hwidth] at hx
  rw [stampRow, hwidth, getMsbD_rotateRight _ (c := c) (by omega) hc hpx (by omega),
    BitVec.getMsbD_shiftLeft, BitVec.getMsbD_eq_getLsbD, BitVec.getLsbD_ofNat, bit]
  by_cases h8 : c < 8
  · have hplace : screenWidth - 1 - (c + (screenWidth - 8)) = 7 - c := by omega
    have hin : c + (screenWidth - 8) < screenWidth := by omega
    have hin' : 7 - c < screenWidth := by omega
    simp [hplace, hin, hin', h8]
  · have hout : ¬ c + (screenWidth - 8) < screenWidth := by omega
    simp [hout, h8]

/-- A row of a sprite is lit where a set pixel falls. -/
theorem getMsbD_stampRow_iff : (stampRow x bits).getMsbD px = true ↔
    ∃ c : Nat, c < 8 ∧ (x + c) % screenWidth = px ∧ bit bits c := by
  have hlit : screenWidth = 64 := rfl
  constructor
  · intro h
    have hwidth : (screenWidth : Int) = 64 := rfl
    have hpx := px.isLt
    obtain ⟨c, hc, hx⟩ : ∃ c : Nat, c < screenWidth ∧ (x + c) % screenWidth = px := by
      refine ⟨((px - x) % screenWidth).toNat, ?_⟩
      rw [hwidth]
      omega
    rw [getMsbD_stampRow hc hx, Bool.and_eq_true, decide_eq_true_iff] at h
    exact ⟨c, h.1, hx, h.2⟩
  · rintro ⟨c, hc, hx, hbit⟩
    rw [getMsbD_stampRow (by omega) hx, hbit, decide_eq_true hc]
    rfl

/-! ## Pictures -/

theorem landing_eq_iff : landing y r = py ↔ (y + r) % screenHeight = py := by
  unfold landing screenHeight
  omega

theorem landing_lt (y : Int) (r : Nat) : landing y r < screenHeight := by
  unfold landing screenHeight
  omega

/-- A pixel of the screen is covered by a row that falls on its row. -/
theorem covers_iff : Covers x y s px py ↔
    ∃ r bits, s[r]? = some bits ∧ landing y r = py ∧ (stampRow x bits).getMsbD px = true := by
  simp only [landing_eq_iff, getMsbD_stampRow_iff]
  constructor
  · rintro ⟨r, c, bits, hr, ⟨hc, hy, hx⟩, hbit⟩
    exact ⟨r, bits, hr, hy, c, hc, hx, hbit⟩
  · rintro ⟨r, bits, hr, hy, c, hc, hx, hbit⟩
    exact ⟨r, c, bits, hr, ⟨hc, hy, hx⟩, hbit⟩

/-- Rows of a sprite that is not too tall land on rows of their own. -/
theorem landing_inj (hr : r < screenHeight) (hr' : r' < screenHeight)
    (h : landing y r = landing y r') : r = r' := by
  unfold landing screenHeight at *
  omega

/-- A further row is put where it lands, and the other rows of the screen stay. -/
theorem stampOn_concat (s : Sprite) (bits : UInt8) : stampOn x y (s ++ [bits]) row =
    if landing y s.length = row then stampRow x bits else stampOn x y s row := by
  simp [stampOn, List.zipIdx_append, List.foldl_append]

/-- Of a sprite that is not taller than the screen, each row is seen where it falls. -/
theorem getMsbD_stampOn_iff (hs : s.length ≤ screenHeight) :
    (stampOn x y s row).getMsbD px = true ↔
      ∃ r bits, s[r]? = some bits ∧ landing y r = row ∧ (stampRow x bits).getMsbD px = true := by
  induction s using List.reverseRecOn with
  | nil => simp [stampOn]
  | append_singleton s last ih =>
    rw [List.length_append, List.length_singleton] at hs
    rw [stampOn_concat]
    split
    · next hlast =>
      constructor
      · intro h
        exact ⟨s.length, last, by simp, hlast, h⟩
      · rintro ⟨r, bits, hbits, hrow, h⟩
        -- the rows before do not fall where the last one falls
        have hr : r = s.length := by
          have hlt : r < (s ++ [last]).length := (List.getElem?_eq_some_iff.1 hbits).1
          rw [List.length_append, List.length_singleton] at hlt
          exact landing_inj (by omega) (by omega) (hrow.trans hlast.symm)
        subst hr
        simp only [List.getElem?_concat_length, Option.some.injEq] at hbits
        rwa [hbits]
    · next hlast =>
      rw [ih (by omega)]
      constructor
      · rintro ⟨r, bits, hbits, hrow, h⟩
        have hlt := (List.getElem?_eq_some_iff.1 hbits).1
        exact ⟨r, bits, by rwa [List.getElem?_append_left hlt], hrow, h⟩
      · rintro ⟨r, bits, hbits, hrow, h⟩
        have hr : r ≠ s.length := by
          rintro rfl
          exact hlast hrow
        have hlt : r < s.length := by
          have := (List.getElem?_eq_some_iff.1 hbits).1
          rw [List.length_append, List.length_singleton] at this
          omega
        exact ⟨r, bits, by rwa [List.getElem?_append_left hlt] at hbits, hrow, h⟩

/-- **A sprite on an empty screen** lights the pixels that its set pixels fall on, if it is not
taller than the screen. -/
theorem pixel_stamp (hs : s.length ≤ screenHeight) :
    (s.stamp x y).pixel px py = true ↔ Covers x y s px py := by
  have hrow : (s.stamp x y).pixel px py = (stampOn x y s py).getMsbD px := by
    simp [Picture.pixel, stamp]
  rw [hrow, getMsbD_stampOn_iff hs, covers_iff]

/-- A row of pixels is not dark if one of them is lit. -/
theorem row_ne_zero_iff {line : PixelRow} :
    (line != 0) = true ↔ ∃ px : Fin screenWidth, line.getMsbD px = true := by
  rw [bne_iff_ne, ← not_iff_not, not_not]
  constructor
  · rintro rfl ⟨px, h⟩
    simp at h
  · intro h
    refine BitVec.eq_of_getMsbD_eq fun i hi => ?_
    have hdark : (0 : PixelRow).getMsbD i = false := BitVec.getMsbD_zero
    rw [hdark, Bool.eq_false_iff]
    exact fun hlit => h ⟨⟨i, hi⟩, hlit⟩

/-- **A sprite collides** with a picture if a set pixel falls on a lit pixel. -/
theorem collides_iff (p : Picture) :
    s.collides x y p = true ↔ ∃ px py, Covers x y s px py ∧ p.pixel px py = true := by
  simp only [collides, List.any_eq_true, Prod.exists, List.mem_zipIdx_iff_getElem?, row_ne_zero_iff,
    BitVec.getMsbD_and, Bool.and_eq_true, covers_iff]
  have hline {r : Nat} {py : Fin screenHeight} (hy : landing y r = py) :
      p[landing y r]?.getD 0 = p[py] := by
    rw [hy, Vector.getElem?_eq_getElem py.isLt, Option.getD_some]
    rfl
  constructor
  · rintro ⟨bits, r, hr, px, hlit, hset⟩
    let py : Fin screenHeight := ⟨landing y r, landing_lt y r⟩
    have hrow : p[landing y r]?.getD 0 = p[py] := hline rfl
    rw [hrow] at hlit
    exact ⟨px, py, ⟨r, bits, hr, rfl, hset⟩, hlit⟩
  · rintro ⟨px, py, ⟨r, bits, hr, hy, hset⟩, hlit⟩
    exact ⟨bits, r, hr, px, (hline hy).symm ▸ hlit, hset⟩

end Sprite

/-! ## The instruction that draws -/

namespace Engine

variable {σ : Type}

open Sprite

theorem getElem?_bytesAtIndex {e : Engine} {n r : Nat} (hi : e.index.toNat + n ≤ memorySize)
    (hr : r < n) :
    (e.bytesAtIndex n)[r]? = some (e.machine.memory.byteAt (e.index.toNat + r)) := by
  have hcell : e.index.toNat + r < memorySize := by omega
  rw [bytesAtIndex, List.getElem?_take_of_lt hr, List.getElem?_drop, Memory.byteAt,
    Vector.getElem?_toList, Vector.getElem?_eq_getElem hcell, Option.getD_some]

/-- That pixel `c` of row `r` of the sprite that a word draws falls on a pixel of the screen. -/
def DrawsOn (e : Engine) (w : Word) (r c : Nat) (px : Fin screenWidth) (py : Fin screenHeight) :
    Prop :=
  r < w.n ∧ FallsOn e.registers[w.x].toNat e.registers[w.y].toNat r c px py

/-- Whether pixel `c` of row `r` is set in the sprite at the index. -/
def spriteBit (e : Engine) (r c : Nat) : Bool :=
  bit (e.machine.memory.byteAt (e.index.toNat + r)) c

/-- The sprite that a word draws, at its place on an empty screen. -/
def stampOf (e : Engine) (w : Word) : Picture :=
  stamp e.registers[w.x].toNat e.registers[w.y].toNat (e.bytesAtIndex w.n)

/-- Whether the sprite that a word draws erases a lit pixel. -/
def hits (e : Engine) (w : Word) : Bool :=
  collides e.registers[w.x].toNat e.registers[w.y].toNat (e.bytesAtIndex w.n) e.machine.picture

section

variable {e : Engine} {w : Word} {r r' c c' : Nat} {px : Fin screenWidth} {py : Fin screenHeight}

theorem drawsOn_unique (h : e.DrawsOn w r c px py) (h' : e.DrawsOn w r' c' px py) :
    r = r' ∧ c = c' := by
  have hn : w.n < screenHeight := Nat.lt_trans w.n.isLt (by decide)
  exact fallsOn_unique h.2 h'.2 (Nat.lt_trans h.1 hn) (Nat.lt_trans h'.1 hn)

variable (hi : e.index.toNat + w.n ≤ memorySize)

include hi

/-- What the sprite of a word covers, told by its set pixels. -/
theorem covers_bytesAtIndex_iff :
    Covers e.registers[w.x].toNat e.registers[w.y].toNat (e.bytesAtIndex w.n) px py ↔
      ∃ r c, e.DrawsOn w r c px py ∧ e.spriteBit r c := by
  constructor
  · rintro ⟨r, c, bits, hbits, hfalls, hbit⟩
    have hr : r < w.n := by
      have hlength := (List.getElem?_eq_some_iff.1 hbits).1
      rwa [e.length_bytesAtIndex hi] at hlength
    rw [getElem?_bytesAtIndex hi hr, Option.some.injEq] at hbits
    subst hbits
    exact ⟨r, c, ⟨hr, hfalls⟩, hbit⟩
  · rintro ⟨r, c, ⟨hr, hfalls⟩, hbit⟩
    exact ⟨r, c, _, getElem?_bytesAtIndex hi hr, hfalls, hbit⟩

/-- The stamp of a word is lit where a set pixel of its sprite falls. -/
theorem pixel_stampOf_iff : (e.stampOf w).pixel px py = true ↔
    ∃ r c, e.DrawsOn w r c px py ∧ e.spriteBit r c := by
  have hheight : (e.bytesAtIndex w.n).length ≤ screenHeight := by
    rw [e.length_bytesAtIndex hi]
    exact Nat.le_of_lt (Nat.lt_trans w.n.isLt (by decide))
  exact (pixel_stamp hheight).trans (covers_bytesAtIndex_iff hi)

/-- Where a pixel of the sprite falls, the stamp is lit as that pixel is set. -/
theorem pixel_stampOf (h : e.DrawsOn w r c px py) :
    (e.stampOf w).pixel px py = e.spriteBit r c := by
  rw [Bool.eq_iff_iff, pixel_stampOf_iff hi]
  constructor
  · rintro ⟨r', c', h', hbit⟩
    obtain ⟨rfl, rfl⟩ := drawsOn_unique h h'
    exact hbit
  · exact fun hbit => ⟨r, c, h, hbit⟩

/-- **A draw collides** if a set pixel falls on a lit one. -/
theorem hits_iff : e.hits w = true ↔
    ∃ px py r c, e.DrawsOn w r c px py ∧ e.spriteBit r c ∧ e.machine.picture.pixel px py := by
  simp only [hits, collides_iff, covers_bytesAtIndex_iff hi]
  constructor
  · rintro ⟨px, py, ⟨r, c, hdraws, hbit⟩, hlit⟩
    exact ⟨px, py, r, c, hdraws, hbit, hlit⟩
  · rintro ⟨px, py, r, c, hdraws, hbit, hlit⟩
    exact ⟨px, py, ⟨r, c, hdraws, hbit⟩, hlit⟩

/-- The word `Dxyn` combines the screen with its stamp and sets the flag. -/
theorem result_executeWord_draw (hw : w.hasForm "Dxyn") (kb : Keyboard σ) (host : σ) :
    (e.executeWord kb w host).result = .ok { e with
      machine := { e.machine with picture := e.machine.picture.xor (e.stampOf w), dirty := true }
      registers := e.registers.put flagRegister
        (e.registers[flagRegister] ||| flagOf (e.hits w))
      pc := e.pc + 2 } := by
  have hdraw : Instruction.ofWord? w = some (.draw w.x w.y w.n) :=
    Instruction.ofWord?_eq_some_iff.2 ⟨hw, rfl, rfl, rfl⟩
  have hperform : e.perform false (.draw w.x w.y w.n) =
      .ok (e.drawSprite w.x w.y (e.bytesAtIndex w.n), .next) :=
    perform_draw_eq_ok_iff.2 ⟨hi, rfl, rfl⟩
  exact executeWord_eq_ok_iff.2 ⟨_, false, _, .next, hdraw, rfl, hperform, rfl⟩

end

/-- **The instruction that draws**, pixel by pixel.  At most one pixel of the sprite at the index
falls on a pixel of the screen.  Where one does, the screen is combined with it by exclusive "or",
and elsewhere it is the same.  The place of the sprite is in `Vx` and `Vy` as they were before `VF`
was written; `VF` gets its lowest bit set if a lit pixel was erased, and is the same otherwise.  The
screen is marked as drawn on in any case, and the program counter moves on. -/
theorem execute_draw (kb : Keyboard σ) (host : σ) (e : Engine) {w : Word} (hw : w.hasForm "Dxyn")
    (hi : e.index.toNat + w.n ≤ memorySize) : ∃ picture flag,
      (e.execute kb w.toNat host).result = .ok { e with
        machine := { e.machine with picture, dirty := true }
        registers := e.registers.put flagRegister flag
        pc := e.pc + 2 } ∧
      (∀ px py, (∀ r c r' c', e.DrawsOn w r c px py → e.DrawsOn w r' c' px py → r = r' ∧ c = c') ∧
        (∀ r c, e.DrawsOn w r c px py →
          picture.pixel px py = (e.machine.picture.pixel px py ^^ e.spriteBit r c)) ∧
        ((¬ ∃ r c, e.DrawsOn w r c px py) →
          picture.pixel px py = e.machine.picture.pixel px py)) ∧
      ((∃ px py r c, e.DrawsOn w r c px py ∧ e.spriteBit r c ∧ e.machine.picture.pixel px py) →
        flag = e.registers[flagRegister] ||| 1) ∧
      ((¬ ∃ px py r c, e.DrawsOn w r c px py ∧ e.spriteBit r c ∧ e.machine.picture.pixel px py) →
        flag = e.registers[flagRegister]) := by
  refine ⟨_, _, (result_execute_natCast kb e w host).trans (result_executeWord_draw hi hw kb host),
    fun px py => ⟨fun r c r' c' => drawsOn_unique, fun r c hdraws => ?_, fun hnone => ?_⟩,
    fun hhit => ?_, fun hmiss => ?_⟩
  · rw [Picture.pixel_xor, pixel_stampOf hi hdraws]
  · have hdark : (e.stampOf w).pixel px py = false := by
      rw [Bool.eq_false_iff, ne_eq, pixel_stampOf_iff hi]
      exact fun ⟨r, c, hdraws, _⟩ => hnone ⟨r, c, hdraws⟩
    rw [Picture.pixel_xor, hdark, Bool.xor_false]
  · rw [(hits_iff hi).2 hhit]
    rfl
  · rw [Bool.eq_false_iff.2 (mt (hits_iff hi).1 hmiss)]
    exact UInt8.or_zero

/-- A sprite that is drawn at the lower right corner goes around both edges. -/
theorem execute_draw_of_corner :
    let e : Engine := { registers := (Registers.put (.replicate 16 0) 0 31).put 15 62 }
    Word.hasForm 0xDF02 "Dxyn" ∧ e.index.toNat + (Word.n 0xDF02).val ≤ memorySize ∧
    ∃ picture flag, (e.execute HeldKey.keyboard 0xDF02 { key := none }).result = .ok { e with
        machine := { e.machine with picture, dirty := true }
        registers := e.registers.put flagRegister flag
        pc := 0x202 } ∧
      picture.pixel (62 : Fin 64) (31 : Fin 32) = true ∧
      picture.pixel (1 : Fin 64) (0 : Fin 32) = true ∧ flag = 62 := by
  intro e
  have hw : Word.hasForm 0xDF02 "Dxyn" := by decide
  have hi : e.index.toNat + (Word.n 0xDF02).val ≤ memorySize := by decide
  obtain ⟨picture, flag, hresult, hpixels, _, hmiss⟩ :=
    execute_draw HeldKey.keyboard { key := none } e hw hi
  have hset (r c) (px : Fin screenWidth) (py : Fin screenHeight) (h : e.DrawsOn 0xDF02 r c px py)
      (hbit : e.spriteBit r c = true) : picture.pixel px py = true := by
    rw [(hpixels px py).2.1 r c h, Picture.pixel_blank, hbit]
    rfl
  refine ⟨hw, hi, picture, flag, hresult, ?_, ?_, ?_⟩
  · exact hset 0 0 _ _ ⟨by decide, by decide, by decide, by decide⟩ (by decide +kernel)
  · exact hset 1 3 _ _ ⟨by decide, by decide, by decide, by decide⟩ (by decide +kernel)
  · refine hmiss fun ⟨px, py, r, c, _, _, hlit⟩ => ?_
    rw [Picture.pixel_blank] at hlit
    cases hlit

end Engine

end Chip8
