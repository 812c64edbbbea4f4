import Chip8.Text.Numeral

/-!
# Proofs/Numeral — an integer in base ten is a numeral

An integer is written with nothing but digits behind a minus sign or none.  No blank is trimmed from
it and no underscore stands in it, so what is read is the value of its digits, one by one, and with
that the integer itself (`integer?_toString`) — as long as it has no more digits than a numeral may.
-/

namespace Chip8.Text

variable {c : Char} {cs : List Char} {n : Nat}

theorem bounds_of_isDigit (h : c.isDigit) : 0x30 ≤ c.toNat ∧ c.toNat ≤ 0x39 :=
  Char.isDigit_iff_toNat.1 h

/-- The value of a digit of the usual script. -/
def digitValue (c : Char) : Nat := c.toNat - '0'.toNat

/-- A digit of ASCII has its value. -/
theorem digitValue?_of_isDigit (h : c.isDigit) : digitValue? c = some (digitValue c) := by
  obtain ⟨hzero, hnine⟩ := bounds_of_isDigit h
  have hfirst : digitZeros.find? (fun first => first ≤ c.toNat && c.toNat < first + 10) =
      some 0x30 := by
    refine List.find?_cons_of_pos ?_
    rw [decide_eq_true hzero, decide_eq_true (by omega)]
    rfl
  rw [digitValue?, hfirst]
  rfl

/-- Digits alone are read one by one. -/
theorem digitGroup?_of_isDigit : ∀ {cs : List Char}, cs ≠ [] → (∀ c ∈ cs, c.isDigit) →
    digitGroup? cs = some (cs.map digitValue)
  | [c], _, h => by
    rw [digitGroup?, digitValue?_of_isDigit (h c (List.mem_singleton_self c))]
    rfl
  | c :: d :: cs, _, h => by
    obtain ⟨hc, hcs⟩ := List.forall_mem_cons.1 h
    have hd : d ≠ '_' := by
      rintro rfl
      exact absurd (hcs '_' List.mem_cons_self) (by decide)
    rw [digitGroup?, digitValue?_of_isDigit hc, digitGroup?_of_isDigit (List.cons_ne_nil d cs) hcs]
    · rfl
    · exact List.cons_ne_nil d cs
    · exact fun rest hrest => hd (List.cons.inj hrest).1

theorem isDigit_of_mem_toDigits (h : c ∈ Nat.toDigits 10 n) : c.isDigit :=
  Nat.isDigit_of_mem_toDigits (by decide) (by decide) h

/-- A number is read back from its digits, if they are not too many. -/
theorem unsigned?_toDigits (h : (Nat.toDigits 10 n).length ≤ digitLimit) :
    unsigned? (Nat.toDigits 10 n) = some n := by
  have hvalue : ofDigitValues ((Nat.toDigits 10 n).map digitValue) = n := by
    rw [ofDigitValues, List.foldl_map]
    exact Nat.ofDigitChars_ten_toDigits
  have hlength : ((Nat.toDigits 10 n).map digitValue).length ≤ digitLimit := by
    rwa [List.length_map]
  rw [unsigned?, digitGroup?_of_isDigit Nat.toDigits_ne_nil fun _ => isDigit_of_mem_toDigits]
  exact (if_pos hlength).trans (congrArg some hvalue)

/-! ## Signs and blanks -/

theorem isBlank_of_isDigit (h : c.isDigit) : isBlank c = false := by
  have hbounds := bounds_of_isDigit h
  simp [isBlank]
  omega

theorem trim_of_forall {p : Char → Bool} (h : ∀ c ∈ cs, p c = false) : trim p cs = cs := by
  have hkeep : ∀ {ds : List Char}, (∀ c ∈ ds, p c = false) → ds.dropWhile p = ds
    | [], _ => rfl
    | d :: ds, hds => List.dropWhile_cons_of_neg (by rw [hds d List.mem_cons_self]; decide)
  rw [trim, trimEnd, hkeep h, hkeep fun c hc => h c (List.mem_reverse.1 hc), List.reverse_reverse]

/-- No number begins with a character that is no digit. -/
theorem toDigits_ne_cons (h : c.isDigit = false) : Nat.toDigits 10 n ≠ c :: cs := by
  intro heq
  have hdigit := isDigit_of_mem_toDigits (heq ▸ List.mem_cons_self)
  rw [h] at hdigit
  cases hdigit

/-- An integer that is not negative is written as its digits. -/
theorem toList_toString_natCast (n : Nat) :
    (toString (n : Int)).toList = Nat.toDigits 10 n := by
  change (toString n).toList = _
  rw [Nat.toString_eq_repr, Nat.toList_repr]

/-- A negative integer is written as a sign and digits. -/
theorem toList_toString_negSucc (n : Nat) :
    (toString (Int.negSucc n)).toList = '-' :: Nat.toDigits 10 (n + 1) := by
  change ("-" ++ toString (n + 1)).toList = _
  rw [String.toList_append, Nat.toString_eq_repr, Nat.toList_repr]
  rfl

/-- **An integer is read back** from its text. -/
theorem integer?_toString {k : Int} (h : (Nat.toDigits 10 k.natAbs).length ≤ digitLimit) :
    integer? (toString k) = some k := by
  have hblank (n : Nat) : ∀ c ∈ Nat.toDigits 10 n, isBlank c = false := fun _ hc =>
    isBlank_of_isDigit (isDigit_of_mem_toDigits hc)
  cases k with
  | ofNat n =>
    have hread : unsigned? (Nat.toDigits 10 n) = some n := unsigned?_toDigits h
    have htrim : trim isBlank (toString (n : Int)).toList = Nat.toDigits 10 n := by
      rw [toList_toString_natCast, trim_of_forall (hblank n)]
    rw [Int.ofNat_eq_natCast, integer?, htrim]
    -- no sign stands in front of a digit
    split
    · next heq => exact absurd heq (toDigits_ne_cons (by decide))
    · next heq => exact absurd heq (toDigits_ne_cons (by decide))
    · rw [hread]
      rfl
  | negSucc n =>
    have hread : unsigned? (Nat.toDigits 10 (n + 1)) = some (n + 1) := unsigned?_toDigits h
    have htrim : trim isBlank (toString (Int.negSucc n)).toList =
        '-' :: Nat.toDigits 10 (n + 1) := by
      rw [toList_toString_negSucc]
      exact trim_of_forall (List.forall_mem_cons.2 ⟨by decide, hblank (n + 1)⟩)
    rw [integer?, htrim]
    simp only [hread]
    rfl

end Chip8.Text
