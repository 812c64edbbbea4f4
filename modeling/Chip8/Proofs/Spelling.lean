import Chip8.Proofs.Digits
import Chip8.Proofs.Listing
import Chip8.Proofs.Mnemonic

/-!
# Proofs/Spelling — the text of a word tells the word

The rows of the disassembler are functions on words.  Here each is taken to pieces: a `Template` is
a text with operands in it, and the text of a row is its template with the operands filled in
(`text_of_mem_rows`).  What has to be compared can then be read off the templates, row by row and
pair by pair:

* two templates clash at a character, before which they have the same operands
  (`Template.text_ne_of_clash`), so the text tells the row;
* a row shows every digit of the word that its mask leaves open (`Template.shows`), so the row and
  its text tell the word.

A word that is no instruction is written as a number, and that is one more row.
-/

namespace Chip8

namespace Word

variable {v w mask : Word}

theorem val_nnn (w : Word) : w.nnn.val = 256 * w.x + 16 * w.y + w.n := by
  have h := w.toNat_digits
  simp only [nnn]
  omega

/-- A mask keeps the digits that it covers in full. -/
theorem digit_eq_of_and_eq (h : v &&& mask = w &&& mask) {place : Nat}
    (hfull : mask.digit place = 0xF) : v.digit place = w.digit place := by
  have hkeep : ∀ d : Fin 16, d.val &&& 0xF = d.val := by decide
  have hdigits := congrArg (fun u => (u.digit place).val) h
  simp only [digit_and, hfull] at hdigits
  rw [Fin.ext_iff, ← hkeep, ← hkeep (w.digit place)]
  exact hdigits

end Word

namespace Mnemonic

open Text

/-! ## Operands -/

/-- A part of a word that texts show. -/
inductive Operand
  | x
  | y
  | byte
  | address
  | height
  | word
  deriving DecidableEq, Repr

namespace Operand

variable {v w : Word} {o : Operand}

/-- The number that stands in a word for an operand. -/
def value (w : Word) : Operand → Nat
  | x => w.x.val
  | y => w.y.val
  | byte => w.nn.toNat
  | address => w.nnn.val
  | height => w.n.val
  | word => w.toNat

/-- The places of an operand's digits in a word. -/
def places : Operand → List Nat
  | x => [2]
  | y => [1]
  | byte => [1, 0]
  | address => [2, 1, 0]
  | height => [0]
  | word => [3, 2, 1, 0]

/-- How an operand is written: in full width and base sixteen, but a height in base ten. -/
def text (w : Word) (o : Operand) : List Char :=
  match o with
  | height => (toString w.n.val).toList
  | _ => (hexNat o.places.length (o.value w)).toList

theorem value_lt (w : Word) (o : Operand) : o.value w < Nat.pow 16 o.places.length := by
  cases o with
  | x => exact w.x.isLt
  | y => exact w.y.isLt
  | byte => exact w.nn.toNat_lt
  | address => exact w.nnn.isLt
  | height => exact w.n.isLt
  | word => exact w.toNat_lt

/-- An operand is known by its text. -/
theorem value_eq_of_text_eq (h : o.text v = o.text w) : o.value v = o.value w := by
  cases o with
  | height => exact toList_toString_inj.1 h
  | _ => exact hexNat_inj.1 (String.toList_inj.1 h)

/-- All operands but heights have a width. -/
theorem length_text (ho : o ≠ .height) (w : Word) : (o.text w).length = o.places.length := by
  have hlt := value_lt w o
  cases o with
  | height => exact absurd rfl ho
  | _ => exact length_hexNat (by decide) hlt

/-- An operand tells its digits. -/
theorem digit_eq_of_value_eq (h : o.value v = o.value w) {place : Nat} (hp : place ∈ o.places) :
    v.digit place = w.digit place := by
  cases o with
  | x | y | height =>
    obtain rfl := List.mem_singleton.1 hp
    exact Fin.ext h
  | byte =>
    rw [value, value, Word.toNat_nn, Word.toNat_nn] at h
    obtain rfl | rfl : place = 1 ∨ place = 0 := by simpa [places] using hp
    · exact Fin.ext (by change v.y.val = w.y.val; omega)
    · exact Fin.ext (by change v.n.val = w.n.val; omega)
  | address =>
    rw [value, value, Word.val_nnn, Word.val_nnn] at h
    obtain rfl | rfl | rfl : place = 2 ∨ place = 1 ∨ place = 0 := by simpa [places] using hp
    · exact Fin.ext (by change v.x.val = w.x.val; omega)
    · exact Fin.ext (by change v.y.val = w.y.val; omega)
    · exact Fin.ext (by change v.n.val = w.n.val; omega)
  | word =>
    obtain rfl := UInt16.toNat_inj.1 h
    rfl

end Operand

/-! ## Templates -/

/-- A character of a text, or an operand. -/
inductive Piece
  | char (c : Char)
  | operand (o : Operand)
  deriving DecidableEq, Repr

/-- A text with operands in it. -/
abbrev Template := List Piece

namespace Template

variable {v w : Word} {s t : Template}

/-- What a character of a row stands for: small letters stand for operands. -/
def ofChar : Char → Template
  | 'x' => [.operand .x]
  | 'y' => [.operand .y]
  | 'k' => [.char '0', .char 'x', .operand .byte]
  | 'a' => [.char '0', .char 'x', .operand .address]
  | 'n' => [.operand .height]
  | 'w' => [.char '0', .char 'x', .operand .word]
  | c => [.char c]

/-- The template that a row spells. -/
def ofString (row : String) : Template := row.toList.flatMap ofChar

/-- The text of a word by a template. -/
def text (w : Word) : Template → List Char
  | [] => []
  | .char c :: t => c :: text w t
  | .operand o :: t => o.text w ++ text w t

/-- Whether two templates differ in a character, with nothing before it that could make up for
that: the same operands, of fixed widths. -/
def clash : Template → Template → Bool
  | .char c :: s, .char d :: t => c != d || clash s t
  | .operand o :: s, .operand p :: t => o == p && o != .height && clash s t
  | _, _ => false

/-- Whether an operand that has no width stands at the end only. -/
def readable : Template → Bool
  | [] => true
  | .char _ :: t => readable t
  | .operand o :: t => (o != .height || t.isEmpty) && readable t

/-- Whether the digits of a word that a mask leaves open are all shown. -/
def shows (t : Template) (mask : Word) : Bool :=
  (List.range 4).all fun place =>
    mask.digit place == 0xF ||
      t.any fun
        | .operand o => o.places.contains place
        | .char _ => false

/-- **Templates that clash** give different texts, whatever the words. -/
theorem text_ne_of_clash (h : clash s t) (v w : Word) : text v s ≠ text w t := by
  intro heq
  fun_induction clash s t with
  | case1 c s d t ih =>
    obtain ⟨hchar, hrest⟩ := List.cons_eq_cons.1 heq
    obtain hne | hclash := Bool.or_eq_true _ _ ▸ h
    · exact bne_iff_ne.1 hne hchar
    · exact ih hclash hrest
  | case2 o s p t ih =>
    simp only [Bool.and_eq_true, beq_iff_eq, bne_iff_ne] at h
    obtain ⟨⟨rfl, hwidth⟩, hclash⟩ := h
    have hlength : (o.text v).length = (o.text w).length := by
      rw [Operand.length_text hwidth, Operand.length_text hwidth]
    exact ih hclash (List.append_inj heq hlength).2
  | case3 => cases h

/-- A text tells the operands in it. -/
theorem value_eq_of_text_eq (ht : readable t) (h : text v t = text w t) {o : Operand}
    (ho : .operand o ∈ t) : o.value v = o.value w := by
  induction t with
  | nil => cases ho
  | cons piece t ih =>
    cases piece with
    | char c =>
      obtain ho | ho := List.mem_cons.1 ho
      · cases ho
      · exact ih ht (List.cons_eq_cons.1 h).2 ho
    | operand p =>
      simp only [readable, Bool.and_eq_true, Bool.or_eq_true, bne_iff_ne, List.isEmpty_iff] at ht
      obtain ⟨hwidth | rfl, ht⟩ := ht
      · have hlength : (p.text v).length = (p.text w).length := by
          rw [Operand.length_text hwidth, Operand.length_text hwidth]
        obtain ⟨hoperand, hrest⟩ := List.append_inj h hlength
        obtain ho | ho := List.mem_cons.1 ho
        · cases ho
          exact Operand.value_eq_of_text_eq hoperand
        · exact ih ht hrest ho
      · -- a height stands at the end, so its text is all that is left
        cases List.mem_singleton.1 ho
        exact Operand.value_eq_of_text_eq (by simpa [text] using h)

/-- A template that shows what a mask leaves open tells a word from those that have the same digits
under the mask. -/
theorem eq_of_text_eq {mask : Word} (hshows : shows t mask) (ht : readable t)
    (hmask : v &&& mask = w &&& mask) (h : text v t = text w t) : v = w := by
  have hdigit : ∀ place < 4, v.digit place = w.digit place := fun place hplace => by
    have hshown := List.all_eq_true.1 hshows place (List.mem_range.2 hplace)
    obtain hfull | hany := Bool.or_eq_true _ _ ▸ hshown
    · exact Word.digit_eq_of_and_eq hmask (beq_iff_eq.1 hfull)
    · obtain ⟨piece, hpiece, hplace⟩ := List.any_eq_true.1 hany
      cases piece with
      | char c => cases hplace
      | operand o =>
        exact Operand.digit_eq_of_value_eq (value_eq_of_text_eq ht h hpiece)
          (List.contains_iff_mem.1 hplace)
  exact Word.eq_iff_digits.2
    ⟨hdigit 3 (by decide), hdigit 2 (by decide), hdigit 1 (by decide), hdigit 0 (by decide)⟩

end Template

/-! ## The templates of the rows -/

/-- The row of the words that are no instruction, which looks at no bit. -/
def fallback : Mnemonic := ⟨0x0000, 0x0000, number⟩

/-- The templates of the rows, in the order of the table, and that of the fallback. -/
def templates : List Template := List.map .ofString [
  "HALT", "CLS", "RET", "JP a", "CALL a", "SE Vx, k", "SNE Vx, k", "SE Vx, Vy", "LD Vx, k",
  "ADD Vx, k", "LD Vx, Vy", "OR Vx, Vy", "AND Vx, Vy", "XOR Vx, Vy", "ADD Vx, Vy", "SUB Vx, Vy",
  "SHR Vx [, Vy]", "SUBN Vx, Vy", "SHL Vx [, Vy]", "SNE Vx, Vy", "LD I, a", "JP V0, a",
  "RND Vx, k", "DRW Vx, Vy, n", "SKP Vx", "SKNP Vx", "LD Vx, DT", "LD Vx, K", "LD DT, Vx",
  "LD ST, Vx", "ADD I, Vx", "LD F, Vx", "LD B, Vx", "LD [I], Vx", "LD Vx, [I]", "w"]

/-- The rows and the fallback with their templates. -/
def rows : List (Mnemonic × Template) := (table ++ [fallback]).zip templates

/-- **The text of a row is its template**, filled in. -/
theorem text_of_mem_rows : ∀ r ∈ rows, ∀ w, (r.1.text w).toList = r.2.text w := by
  simp [rows, table, templates, Template.ofString, Template.ofChar, Template.text, Operand.text,
    Operand.value, Operand.places, fallback, vx, vy, byte, address, number, toString]

/-- Any two templates clash, which is found out by comparing them. -/
theorem rows_clash : rows.Pairwise fun r r' => r.2.clash r'.2 := by decide +kernel

/-- Each template can be read, and shows what its mask leaves open. -/
theorem readable_of_mem_rows : ∀ r ∈ rows, r.2.readable ∧ r.2.shows r.1.mask := by decide +kernel

variable {v w : Word} {r r' : Mnemonic × Template}

/-- Different rows clash. -/
theorem eq_or_clash (hr : r ∈ rows) (hr' : r' ∈ rows) :
    r = r' ∨ r.2.clash r'.2 ∨ r'.2.clash r.2 := by
  obtain ⟨i, hi, rfl⟩ := List.mem_iff_getElem.1 hr
  obtain ⟨j, hj, rfl⟩ := List.mem_iff_getElem.1 hr'
  have hclash := List.pairwise_iff_getElem.1 rows_clash
  obtain hlt | rfl | hlt := Nat.lt_trichotomy i j
  · exact .inr (.inl (hclash i j hi hj hlt))
  · exact .inl rfl
  · exact .inr (.inr (hclash j i hj hi hlt))

/-- **Row and text tell the word.** -/
theorem eq_of_text_eq (hr : r ∈ rows) (hr' : r' ∈ rows) (hv : r.1.covers v) (hw : r'.1.covers w)
    (h : r.1.text v = r'.1.text w) : v = w := by
  have htext : r.2.text v = r'.2.text w := by
    rw [← text_of_mem_rows r hr, ← text_of_mem_rows r' hr', h]
  obtain rfl | hclash | hclash := eq_or_clash hr hr'
  · obtain ⟨hreadable, hshows⟩ := readable_of_mem_rows r hr
    have hmask : v &&& r.1.mask = w &&& r.1.mask := (beq_iff_eq.1 hv).trans (beq_iff_eq.1 hw).symm
    exact Template.eq_of_text_eq hshows hreadable hmask htext
  · exact absurd htext (Template.text_ne_of_clash hclash v w)
  · exact absurd htext.symm (Template.text_ne_of_clash hclash w v)

/-- A word is written by a row that it belongs to, or by the fallback. -/
theorem exists_mem_rows (w : Word) : ∃ r ∈ rows, r.1.covers w ∧ w.describe = r.1.text w := by
  have hrow : ∀ m ∈ table ++ [fallback], ∃ r ∈ rows, r.1 = m := fun m hm => by
    have hrows : rows.map Prod.fst = table ++ [fallback] := List.map_fst_zip (by decide)
    exact List.mem_map.1 (hrows ▸ hm)
  cases hfind : table.find? (·.covers w) with
  | some m =>
    obtain ⟨r, hr, hm⟩ := hrow m (List.mem_append_left _ (List.mem_of_find?_eq_some hfind))
    have hcovers := List.find?_some hfind
    exact ⟨r, hr, hm ▸ hcovers, by rw [Word.describe, hfind, hm]⟩
  | none =>
    obtain ⟨r, hr, hfallback⟩ := hrow fallback (by simp)
    refine ⟨r, hr, ?_, ?_⟩
    · rw [hfallback, covers, fallback, UInt16.and_zero, beq_self_eq_true]
    · rw [Word.describe, hfind, hfallback, fallback]

end Mnemonic

/-- Words are known by their texts. -/
theorem Word.eq_of_describe_eq {v w : Word} (h : v.describe = w.describe) : v = w := by
  obtain ⟨r, hr, hv, htext⟩ := Mnemonic.exists_mem_rows v
  obtain ⟨r', hr', hw, htext'⟩ := Mnemonic.exists_mem_rows w
  rw [htext, htext'] at h
  exact Mnemonic.eq_of_text_eq hr hr' hv hw h

/-! ## Listings -/

/-- The texts of a listing are those of its words. -/
theorem map_text_disassemble (start : Int) : ∀ program : List UInt8,
    (disassemble start program).map (·.text) =
      ((disassemble start program).map (·.word)).map Word.describe
  | [] => rfl
  | [_] => rfl
  | high :: low :: rest => by
    rw [disassemble, List.map_cons, map_text_disassemble _ rest]
    rfl

/-- The words of a listing do not depend on where it starts. -/
theorem map_word_disassemble (start start' : Int) : ∀ program : List UInt8,
    (disassemble start program).map (·.word) = (disassemble start' program).map (·.word)
  | [] => rfl
  | [_] => rfl
  | high :: low :: rest => congrArg (Word.ofBytes high low :: ·) (map_word_disassemble _ _ rest)

/-- The words of a listing are the program, if no odd byte is left over. -/
theorem flatMap_toBytes_of_even (start : Int) {program : List UInt8} (h : 2 ∣ program.length) :
    ((disassemble start program).map (·.word)).flatMap Word.toBytes = program := by
  rw [List.flatMap_map, flatMap_toBytes_disassemble, Nat.mul_div_cancel' h, List.take_length]

/-- **The disassembly loses nothing.**  No two words have the same text.  So programs of even length
whose listings have the same texts, line by line, are the same byte for byte, wherever the listings
start. -/
theorem disassembly_loses_nothing :
    (∀ v w : Word, v.describe = w.describe ↔ v = w) ∧
    ∀ (start start' : Int) (program program' : List UInt8),
      2 ∣ program.length → 2 ∣ program'.length →
        ((disassemble start program).map (·.text) = (disassemble start' program').map (·.text) ↔
          program = program') := by
  refine ⟨fun v w => ⟨Word.eq_of_describe_eq, congrArg _⟩,
    fun start start' program program' heven heven' => ⟨fun h => ?_, ?_⟩⟩
  · rw [map_text_disassemble, map_text_disassemble] at h
    have hwords := (List.map_inj_right fun _ _ => Word.eq_of_describe_eq).1 h
    rw [← flatMap_toBytes_of_even start heven, hwords, flatMap_toBytes_of_even start' heven']
  · rintro rfl
    rw [map_text_disassemble, map_text_disassemble, map_word_disassemble start start']

/-- Two sprites whose heights differ, drawn from the same registers. -/
theorem disassembly_loses_nothing_of_heights :
    (disassemble 0x200 [0xDA, 0xB0]).map (·.text) ≠ (disassemble 0 [0xDA, 0xBA]).map (·.text) :=
  mt (disassembly_loses_nothing.2 0x200 0 [0xDA, 0xB0] [0xDA, 0xBA] (by decide) (by decide)).1
    (by decide)

end Chip8
