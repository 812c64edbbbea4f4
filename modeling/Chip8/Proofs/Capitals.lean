import Mathlib.Data.List.Basic
import Chip8.Text.Uppercase

/-!
# Proofs/Capitals — capitals are their own capital forms

No character that occurs in a capital form has another capital form (`notMem_of_capital`).  The
table tells which code points have one and which occur in one; as sets of bits they are compared at
once.  So a text in capitals stays as it is (`upper_upper`).
-/

namespace Chip8.Text

/-! ## The code points of the table -/

/-- The code points of a run. -/
def CaseRun.codes (r : CaseRun) : List Nat :=
  List.range' r.first ((r.last - r.first) / r.stride + 1) r.stride

/-- The code points that have another capital form. -/
def lowercase : List Nat := expandingCapitals.map (·.1) ++ caseRuns.flatMap CaseRun.codes

/-- The code points that occur in these forms. -/
def capitals : List Nat :=
  expandingCapitals.flatMap (·.2) ++
    caseRuns.flatMap fun r => r.codes.map fun code : Nat => (code + r.shift).toNat

/-- A set of numbers by its bits. -/
def bitsOf (codes : List Nat) : Nat := codes.foldr (fun code set => set ||| 1 <<< code) 0

/-- The bits of the mask are the codes of the list. -/
theorem testBit_bitsOf (codes : List Nat) (code : Nat) :
    (bitsOf codes).testBit code = decide (code ∈ codes) := by
  induction codes with
  | nil => simp [bitsOf]
  | cons first rest ih =>
    have hbits : bitsOf (first :: rest) = bitsOf rest ||| 1 <<< first := rfl
    rw [hbits, Nat.testBit_or, ih, Nat.one_shiftLeft, Nat.testBit_two_pow]
    simp [Bool.or_comm, eq_comm]

/-- What is put for a code point that does not exist has no other capital form either. -/
theorem bitsOf_disjoint : bitsOf (0 :: capitals) &&& bitsOf lowercase = 0 := by decide +kernel

/-- No code that a small letter is raised to is a small letter: the two masks have no bit in
common. -/
theorem notMem_of_capital {code : Nat} (h : code ∈ 0 :: capitals) : code ∉ lowercase := by
  intro hlower
  have hboth : (bitsOf (0 :: capitals) &&& bitsOf lowercase).testBit code = true := by
    rw [Nat.testBit_and, testBit_bitsOf, testBit_bitsOf, decide_eq_true h, decide_eq_true hlower]
    rfl
  rw [bitsOf_disjoint, Nat.zero_testBit] at hboth
  cases hboth

/-! ## Characters -/

variable {c d : Char}

theorem CaseRun.mem_codes {r : CaseRun} {code : Nat} (h : r.covers code = true) :
    code ∈ r.codes := by
  simp only [covers, Bool.and_eq_true, decide_eq_true_eq, beq_iff_eq] at h
  obtain ⟨⟨hfirst, hlast⟩, hstride⟩ := h
  refine List.mem_range'.2 ⟨(code - r.first) / r.stride, ?_, ?_⟩
  · exact Nat.lt_succ_of_le (Nat.div_le_div_right (Nat.sub_le_sub_right hlast _))
  · have hplace := Nat.div_add_mod (code - r.first) r.stride
    omega

theorem mem_lowercase_of_covers {r : CaseRun} {code : Nat} (hr : r ∈ caseRuns)
    (h : r.covers code = true) : code ∈ lowercase :=
  List.mem_append_right _ (List.mem_flatMap.2 ⟨r, hr, CaseRun.mem_codes h⟩)

/-- A character of which the table says nothing is its own capital form. -/
theorem upperChar_of_notMem (h : c.toNat ∉ lowercase) : upperChar c = [c] := by
  by_cases hascii : c.toNat < 128
  · have hletter : ¬ ('a'.val ≤ c.val ∧ c.val ≤ 'z'.val) := by
      rintro ⟨ha, hz⟩
      refine h (mem_lowercase_of_covers (r := ⟨0x61, 0x7A, 1, -32⟩) List.mem_cons_self ?_)
      have hcode : 0x61 ≤ c.toNat ∧ c.toNat ≤ 0x7A := ⟨ha, hz⟩
      simp [CaseRun.covers, hcode, Nat.mod_one]
    have hsame : c.toUpper = c := dif_neg hletter
    rw [upperChar_ascii hascii, hsame]
  · have hkey : expandingCapitals.lookup c.toNat = none := by
      refine List.lookup_eq_none_iff.2 fun entry hentry => bne_iff_ne.2 fun heq => h ?_
      exact List.mem_append_left _ (List.mem_map.2 ⟨entry, hentry, heq.symm⟩)
    have hrun : caseRuns.find? (·.covers c.toNat) = none :=
      List.find?_eq_none.2 fun r hr hcovers => h (mem_lowercase_of_covers hr hcovers)
    rw [upperChar, if_neg hascii, upperBeyondAscii, hkey, hrun]

/-- A letter of ASCII that is raised stays as it is. -/
theorem upperChar_toUpper (h : c.toNat < 128) : upperChar c.toUpper = [c.toUpper] := by
  have hall : ∀ code : Fin 128,
      upperChar (Char.ofNat code).toUpper = [(Char.ofNat code).toUpper] := by decide
  simpa only [Char.ofNat_toNat] using hall ⟨c.toNat, h⟩

/-- What the table puts for a code point is its own capital form. -/
theorem upperChar_ofNat {code : Nat} (h : code ∈ capitals) :
    upperChar (Char.ofNat code) = [Char.ofNat code] := by
  refine upperChar_of_notMem (notMem_of_capital ?_)
  by_cases hvalid : code.isValidChar
  · have hcode : (Char.ofNat code).toNat = code := congrArg Char.toNat (dif_pos hvalid)
    rw [hcode]
    exact List.mem_cons_of_mem _ h
  · have hzero : (Char.ofNat code).toNat = 0 := congrArg Char.toNat (dif_neg hvalid)
    rw [hzero]
    exact List.mem_cons_self

/-- What a character is raised to stays as it is. -/
theorem upperChar_of_mem (h : d ∈ upperChar c) : upperChar d = [d] := by
  rw [upperChar] at h
  split at h
  · next hascii =>
    obtain rfl := List.mem_singleton.1 h
    exact upperChar_toUpper hascii
  next hascii =>
  rw [upperBeyondAscii] at h
  split at h
  · next codes hcodes =>
    obtain ⟨code, hcode, rfl⟩ := List.mem_map.1 h
    obtain ⟨before, after, htable, _⟩ := List.lookup_eq_some_iff.1 hcodes
    have hentry : (c.toNat, codes) ∈ expandingCapitals := by
      rw [htable]
      exact List.mem_append_right _ List.mem_cons_self
    exact upperChar_ofNat (List.mem_append_left _ (List.mem_flatMap.2 ⟨_, hentry, hcode⟩))
  next hcodes =>
  split at h
  · next run hrun =>
    obtain rfl := List.mem_singleton.1 h
    have hcode : c.toNat ∈ run.codes := CaseRun.mem_codes (by simpa using List.find?_some hrun)
    refine upperChar_ofNat (List.mem_append_right _ (List.mem_flatMap.2 ⟨run, ?_, ?_⟩))
    · exact List.mem_of_find?_eq_some hrun
    · exact List.mem_map_of_mem hcode
  · next hrun =>
    obtain rfl := List.mem_singleton.1 h
    rw [upperChar, if_neg hascii, upperBeyondAscii, hcodes, hrun]

/-- **A text in capitals stays as it is.** -/
theorem upper_upper (s : String) : upper (upper s) = upper s := by
  have hchar : ∀ c ∈ s.toList, (upperChar c).flatMap upperChar = upperChar c := by
    intro c _
    rw [List.flatMap_congr fun d hd => upperChar_of_mem hd, List.flatMap_singleton']
  refine String.toList_injective ?_
  rw [toList_upper, toList_upper, List.flatMap_assoc, List.flatMap_congr hchar]

end Chip8.Text
