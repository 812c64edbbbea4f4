import Mathlib.Data.List.TakeDrop
import Mathlib.Data.List.TakeWhile

/-!
# Proofs/Marks — texts with a mark between them

A mark is a character that does not stand in the texts it separates.  A text in front of a mark can
be cut off again (`span_append_cons`), so texts are known by what is made of them with marks in
between: two texts (`append_cons_inj`), or a list of them (`intercalate_inj`).
-/

namespace Chip8.Text

variable {mark : Char} {text text' rest rest' tail : List Char} {texts texts' : List (List Char)}

theorem forall_bne_of_notMem (h : mark ∉ text) : ∀ c ∈ text, (c != mark) = true := fun _ hc =>
  bne_iff_ne.2 fun hmark => h (hmark ▸ hc)

/-- A text without the mark is not cut. -/
theorem span_of_notMem (h : mark ∉ text) : text.span (· != mark) = (text, []) := by
  have hne := forall_bne_of_notMem h
  rw [List.span_eq_takeWhile_dropWhile, List.takeWhile_eq_self_iff.2 hne,
    List.dropWhile_eq_nil_iff.2 hne]

/-- A text is cut at its first mark. -/
theorem span_append_cons (h : mark ∉ text) (rest : List Char) :
    (text ++ mark :: rest).span (· != mark) = (text, mark :: rest) := by
  have hne := forall_bne_of_notMem h
  rw [List.span_eq_takeWhile_dropWhile, List.takeWhile_append_of_pos hne,
    List.dropWhile_append_of_pos hne, List.takeWhile_cons_of_neg (by simp),
    List.dropWhile_cons_of_neg (by simp), List.append_nil]

/-- **The first mark tells where the text before it ends.** -/
theorem append_cons_inj (h : mark ∉ text) (h' : mark ∉ text') :
    text ++ mark :: rest = text' ++ mark :: rest' ↔ text = text' ∧ rest = rest' := by
  refine ⟨fun heq => ?_, by rintro ⟨rfl, rfl⟩; rfl⟩
  have hspan := congrArg (List.span (· != mark)) heq
  rw [span_append_cons h, span_append_cons h'] at hspan
  obtain ⟨htext, hrest⟩ := Prod.mk.inj hspan
  exact ⟨htext, (List.cons.inj hrest).2⟩

/-! ## Lists of texts -/

/-- With one more separator at the end, there is one behind every text of a list. -/
theorem intercalate_append_self (separator : List Char) :
    ∀ {texts : List (List Char)}, texts ≠ [] →
      separator.intercalate texts ++ separator = texts.flatMap (· ++ separator)
  | [text], _ => by simp
  | text :: next :: texts, _ => by
    rw [List.intercalate_cons_cons, List.append_assoc,
      intercalate_append_self separator (List.cons_ne_nil next texts)]
    rfl

/-- Texts without the mark, each with the mark behind it, can be told apart again. -/
theorem eq_of_flatMap_append_eq : ∀ {texts texts' : List (List Char)},
    (∀ t ∈ texts, mark ∉ t) → (∀ t ∈ texts', mark ∉ t) →
      texts.flatMap (· ++ mark :: tail) = texts'.flatMap (· ++ mark :: tail) → texts = texts'
  | [], [], _, _, _ => rfl
  | [], text' :: texts', _, _, heq => by simp at heq
  | text :: texts, [], _, _, heq => by simp at heq
  | text :: texts, text' :: texts', h, h', heq => by
    obtain ⟨htext, htexts⟩ := List.forall_mem_cons.1 h
    obtain ⟨htext', htexts'⟩ := List.forall_mem_cons.1 h'
    simp only [List.flatMap_cons, List.append_assoc, List.cons_append] at heq
    obtain ⟨rfl, hmore⟩ := (append_cons_inj htext htext').1 heq
    have hrest := List.append_cancel_left hmore
    exact congrArg (text :: ·) (eq_of_flatMap_append_eq htexts htexts' hrest)

theorem intercalate_ne_nil (h : ∀ t ∈ texts, t ≠ []) (hne : texts ≠ []) (separator : List Char) :
    separator.intercalate texts ≠ [] := by
  obtain ⟨text, texts, rfl⟩ := List.exists_cons_of_ne_nil hne
  obtain ⟨htext, _⟩ := List.forall_mem_cons.1 h
  cases texts <;> simp [htext]

/-- **A list of texts** is known by the texts put one behind the other, with a separator between
that starts with a mark. -/
theorem intercalate_inj (h : ∀ t ∈ texts, t ≠ [] ∧ mark ∉ t)
    (h' : ∀ t ∈ texts', t ≠ [] ∧ mark ∉ t) :
    (mark :: tail).intercalate texts = (mark :: tail).intercalate texts' ↔ texts = texts' := by
  refine ⟨fun heq => ?_, congrArg _⟩
  obtain rfl | hne := eq_or_ne texts []
  · by_contra hne'
    exact intercalate_ne_nil (fun t ht => (h' t ht).1) (Ne.symm hne') _ (heq.symm.trans (by simp))
  obtain rfl | hne' := eq_or_ne texts' []
  · exact absurd (heq.trans (by simp)) (intercalate_ne_nil (fun t ht => (h t ht).1) hne _)
  have hmore := congrArg (· ++ mark :: tail) heq
  rw [intercalate_append_self _ hne, intercalate_append_self _ hne'] at hmore
  exact eq_of_flatMap_append_eq (fun t ht => (h t ht).2) (fun t ht => (h' t ht).2) hmore

end Chip8.Text
