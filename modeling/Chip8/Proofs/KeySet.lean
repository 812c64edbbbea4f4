import Mathlib.Data.Finset.Sort
import Mathlib.Data.Int.Order.Basic
import Chip8.Keyboard.Keypad
import Chip8.Proofs.Digits
import Chip8.Proofs.Result
import Chip8.Proofs.Simulation

/-!
# Proofs/KeySet — the keypad is a set of keys

A keypad keeps a mark for each of its sixteen keys.  To whoever presses, releases and asks it is a
finite set of integers between 0 and 15 (`KeySet.service`): the keys that are down.  Read in
ascending order those keys are both what the keypad prints and where its lowest key stands first, so
one fact about that order (`members_keySet`) answers for both; the rest is membership.
-/

namespace Chip8

namespace Keypad

/-- What is asked of a keypad. -/
inductive Request
  | press (key : Int)
  | release (key : Int)
  | releaseAll
  | isPressed (key : Int)
  | getKey
  | text
  deriving DecidableEq, Repr

/-- What a keypad answers. -/
inductive Answer
  | done
  | pressed (down : Bool)
  | key (key : Option Int)
  | text (text : String)
  deriving DecidableEq, Repr

/-- The answer to a change, and the keypad after it; a change that is refused is not made. -/
def settle (p : Keypad) : Except Error Keypad → Except Error Answer × Keypad
  | .ok after => (.ok .done, after)
  | .error err => (.error err, p)

/-- The keypad under requests. -/
def service : Service Keypad Request (Except Error Answer) where
  serve p
    | .press key => p.settle (p.press key)
    | .release key => p.settle (p.release key)
    | .releaseAll => (.ok .done, releaseAll)
    | .isPressed key => ((p.isPressed key).map .pressed, p)
    | .getKey => (.ok (.key (keyboard.getKey p).1), p)
    | .text => (.ok (.text p.text), p)

end Keypad

namespace KeySet

open Keypad

/-- The least member of a set, if there is one. -/
def least? (s : Finset Int) : Option Int := if h : s.Nonempty then some (s.min' h) else none

/-- The hexadecimal digit of a number below sixteen. -/
def digit (key : Int) : String :=
  String.ofList ["0123456789ABCDEF".toList.getD key.toNat '0']

/-- The members of a set in ascending order. -/
def members (s : Finset Int) : List Int := s.sort

/-- The members of a set as a keypad lists them. -/
def text (s : Finset Int) : String :=
  "Keypad(pressed=[" ++ ", ".intercalate ((members s).map digit) ++ "])"

/-- A finite set under the requests of a keypad; requests about integers that are no keys are
refused. -/
def service : Service (Finset Int) Request (Except Error Answer) where
  serve s
    | .press key =>
      if 0 ≤ key ∧ key ≤ 15 then (.ok .done, insert key s) else (.error (.keyRange key), s)
    | .release key =>
      if 0 ≤ key ∧ key ≤ 15 then (.ok .done, s.erase key) else (.error (.keyRange key), s)
    | .releaseAll => (.ok .done, ∅)
    | .isPressed key =>
      if 0 ≤ key ∧ key ≤ 15 then (.ok (.pressed (key ∈ s)), s) else (.error (.keyRange key), s)
    | .getKey => (.ok (.key (least? s)), s)
    | .text => (.ok (.text (text s)), s)

/-- The least member of a set is the first in ascending order. -/
theorem least?_eq_head? (s : Finset Int) : least? s = (members s).head? := by
  rw [least?, members]
  split
  · next h =>
    rw [Finset.min'_eq_sorted_zero, List.head?_eq_getElem?]
    exact (List.getElem?_eq_getElem _).symm
  · next h =>
    obtain rfl := Finset.not_nonempty_iff_eq_empty.1 h
    rw [Finset.sort_empty]
    rfl

theorem hexNat_eq_digit (key : Fin 16) : Text.hexNat 1 key.val = digit key.val := by
  have hdigits : ∀ k : Fin 16, List.leftpad 1 '0' [k.val.digitChar.toUpper] =
      ["0123456789ABCDEF".toList.getD k.val '0'] := by decide
  refine String.toList_injective ?_
  rw [Text.toList_hexNat, Text.hexDigits_of_lt key.isLt, hdigits]
  exact String.toList_ofList.symm

end KeySet

namespace Keypad

variable {p : Keypad} {key : Int} {k : Fin 16} {keys : List Int}

/-! ## Keys and integers -/

/-- **A key is accepted from 0 to 15**, and refused with its number otherwise. -/
theorem parseKey_cases (key : Int) :
    ((0 ≤ key ∧ key ≤ 15) ∧ ∃ k : Fin 16, (k.val : Int) = key ∧ parseKey key = .ok k) ∨
      (¬ (0 ≤ key ∧ key ≤ 15) ∧ parseKey key = .error (.keyRange key)) := by
  by_cases h : 0 ≤ key ∧ key ≤ 15
  · refine .inl ⟨h, ⟨key.toNat, by omega⟩, Int.toNat_of_nonneg h.1, ?_⟩
    rw [parseKey, dif_pos (by omega)]
  · refine .inr ⟨h, ?_⟩
    rw [parseKey, dif_neg (by omega)]

/-- The keys that are down, as a set of integers. -/
def keySet (p : Keypad) : Finset Int := (p.pressed.map fun k => (k.val : Int)).toFinset

/-- The set of a keypad has the keys that are down. -/
theorem mem_keySet : key ∈ p.keySet ↔ ∃ k ∈ p.pressed, (k.val : Int) = key := by
  rw [keySet, List.mem_toFinset, List.mem_map]

theorem natCast_mem_keySet : (k.val : Int) ∈ p.keySet ↔ k ∈ p.pressed := by
  rw [mem_keySet]
  constructor
  · rintro ⟨other, hother, hval⟩
    obtain rfl : other = k := Fin.ext (by omega)
    exact hother
  · exact fun h => ⟨k, h, rfl⟩

/-- A key that is set is in the set if it goes down; the other keys stay as they are. -/
theorem mem_keySet_set {down : Bool} : key ∈ (p.set k down).keySet ↔
    if (k.val : Int) = key then down = true else key ∈ p.keySet := by
  rw [mem_keySet]
  simp only [mem_pressed_set]
  split
  · next heq =>
    constructor
    · rintro ⟨other, hother, rfl⟩
      rwa [if_pos (Fin.ext (by omega))] at hother
    · intro hdown
      exact ⟨k, by rwa [if_pos rfl], heq⟩
  · next hne =>
    have hother {other : Fin 16} (h : (other.val : Int) = key) : k ≠ other := by
      rintro rfl
      exact hne h
    rw [mem_keySet]
    constructor
    · rintro ⟨other, hdown, hval⟩
      exact ⟨other, by rwa [if_neg (hother hval)] at hdown, hval⟩
    · rintro ⟨other, hdown, hval⟩
      exact ⟨other, by rwa [if_neg (hother hval)], hval⟩

theorem keySet_press (p : Keypad) (k : Fin 16) :
    (p.set k true).keySet = insert (k.val : Int) p.keySet := by
  ext key
  rw [mem_keySet_set, Finset.mem_insert, eq_comm (a := key)]
  split
  · next heq => simp [heq]
  · next hne => simp [hne]

theorem keySet_release (p : Keypad) (k : Fin 16) :
    (p.set k false).keySet = p.keySet.erase (k.val : Int) := by
  ext key
  rw [mem_keySet_set, Finset.mem_erase, ne_comm]
  split
  · next heq => simp [heq]
  · next hne => simp [hne]

/-! ## Keys in ascending order -/

/-- **In ascending order** the set of a keypad is what is down, in the order of the marks. -/
theorem members_keySet (p : Keypad) :
    KeySet.members p.keySet = p.pressed.map fun k => (k.val : Int) := by
  have hordered : p.pressed.Pairwise (· < ·) := (List.pairwise_lt_finRange 16).filter _
  have hints : (p.pressed.map fun k => (k.val : Int)).Pairwise (· < ·) :=
    hordered.map _ fun k other h => by exact_mod_cast h
  refine (List.toFinset_sort _ ?_).2 ?_
  · exact hints.imp fun h => ne_of_lt h
  · exact hints.imp fun h => le_of_lt h

/-- The lowest key that is down is the least of the set. -/
theorem lowest_eq_least? (p : Keypad) :
    p.lowest.map (fun k => (k.val : Int)) = KeySet.least? p.keySet := by
  rw [KeySet.least?_eq_head?, members_keySet, List.head?_map, pressed, List.head?_filter]
  rfl

/-- A keypad prints its set. -/
theorem text_eq_text (p : Keypad) : p.text = KeySet.text p.keySet := by
  have hnames : p.pressed.map (fun k => Text.hexNat 1 k.val) =
      (KeySet.members p.keySet).map KeySet.digit := by
    rw [members_keySet, List.map_map]
    exact List.map_congr_left fun k _ => KeySet.hexNat_eq_digit k
  exact congrArg (fun names => "Keypad(pressed=[" ++ ", ".intercalate names ++ "])") hnames

/-! ## Requests -/

/-- **One request**: keypad and set answer alike, and the set is again that of the keys down. -/
theorem simulates_keySet : service.Simulates KeySet.service fun p s => p.keySet = s := by
  rintro p _ request rfl
  cases request with
  | press key =>
    simp only [service, KeySet.service, press]
    obtain ⟨h, k, rfl, hk⟩ | ⟨h, hk⟩ := parseKey_cases key
    · rw [hk, if_pos h]
      exact ⟨rfl, keySet_press p k⟩
    · rw [hk, if_neg h]
      exact ⟨rfl, rfl⟩
  | release key =>
    simp only [service, KeySet.service, release]
    obtain ⟨h, k, rfl, hk⟩ | ⟨h, hk⟩ := parseKey_cases key
    · rw [hk, if_pos h]
      exact ⟨rfl, keySet_release p k⟩
    · rw [hk, if_neg h]
      exact ⟨rfl, rfl⟩
  | releaseAll => exact ⟨rfl, rfl⟩
  | isPressed key =>
    simp only [service, KeySet.service, isPressed]
    obtain ⟨h, k, rfl, hk⟩ | ⟨h, hk⟩ := parseKey_cases key
    · have hdown : p.keys[k] = decide ((k.val : Int) ∈ p.keySet) := by
        rw [Bool.eq_iff_iff, decide_eq_true_iff, natCast_mem_keySet, pressed, List.mem_filter]
        exact (and_iff_right (List.mem_finRange k)).symm
      rw [hk, if_pos h, ← hdown]
      exact ⟨rfl, rfl⟩
    · rw [hk, if_neg h]
      exact ⟨rfl, rfl⟩
  | getKey =>
    exact ⟨congrArg (fun key => Except.ok (Answer.key key)) (lowest_eq_least? p), rfl⟩
  | text =>
    exact ⟨congrArg (fun text => Except.ok (Answer.text text)) (text_eq_text p), rfl⟩

/-- Whatever is refused is refused with one class of error. -/
theorem title_of_refused (s : Finset Int) (request : Request) :
    ∀ err, (KeySet.service.serve s request).1 = .error err → err.title = "ValueError" := by
  intro err h
  cases request with
  | press key | release key | isPressed key =>
    simp only [KeySet.service] at h
    split at h
    · cases h
    · cases h
      rfl
  | releaseAll | getKey | text => cases h

/-- Keys in range that are pressed one after another are added to the set. -/
theorem foldlM_press (p : Keypad) (h : ∀ key ∈ keys, 0 ≤ key ∧ key ≤ 15) :
    ∃ after, keys.foldlM press p = .ok after ∧ after.keySet = p.keySet ∪ keys.toFinset := by
  induction keys generalizing p with
  | nil => exact ⟨p, rfl, by simp⟩
  | cons key keys ih =>
    obtain ⟨hkey, hkeys⟩ := List.forall_mem_cons.1 h
    obtain ⟨_, k, rfl, hk⟩ | ⟨hout, _⟩ := parseKey_cases key
    · obtain ⟨after, hafter, hset⟩ := ih (p.set k true) hkeys
      have hpress : p.press k.val = .ok (p.set k true) := by
        rw [press, hk]
        rfl
      refine ⟨after, by rw [List.foldlM_cons, hpress, Except.ok_bind, hafter], ?_⟩
      rw [hset, keySet_press, List.toFinset_cons, Finset.insert_union, Finset.union_insert]
    · exact absurd hkey hout

/-- **The keypad is a set of keys.**  From any keys that are pressed at first, all requests are
answered as the set of these keys answers them: a press adds a key and a release takes it away, a
key is down if it is a member, the lowest key is the least member if there is one, and the text
lists the members in ascending order as hexadecimal digits.  An integer that is no key, a negative
one as well, is refused and changes nothing; and the keys that are down are again the members. -/
theorem requests_as_on_key_set (h : ∀ key ∈ keys, 0 ≤ key ∧ key ≤ 15) :
    ∃ p, ofKeys keys = .ok p ∧ ∀ requests : List Request,
      service.answers p requests = KeySet.service.answers keys.toFinset requests ∧
      (∀ err, .error err ∈ service.answers p requests → err.title = "ValueError") ∧
      ∀ k : Fin 16, k ∈ (service.after p requests).pressed ↔
        (k.val : Int) ∈ KeySet.service.after keys.toFinset requests := by
  obtain ⟨p, hp, hset⟩ := foldlM_press {} h
  have hfirst : p.keySet = keys.toFinset := hset.trans (Finset.empty_union _)
  refine ⟨p, hp, fun requests => ?_⟩
  have hanswers := simulates_keySet.answers_eq hfirst requests
  refine ⟨hanswers, fun err herr => ?_, fun k => ?_⟩
  · rw [hanswers] at herr
    let P (a : Except Error Answer) : Prop := ∀ err, a = .error err → err.title = "ValueError"
    exact Service.forall_mem_answers (P := P) title_of_refused _ requests _ herr err rfl
  · rw [← simulates_keySet.after hfirst requests, natCast_mem_keySet]

/-- Two keys, of which the lower one is let go; there is no key before the first. -/
theorem requests_as_on_key_set_of_two_keys :
    (∀ key ∈ [11, 1], (0 : Int) ≤ key ∧ key ≤ 15) ∧
      KeySet.service.answers {11, 1} [.getKey, .press (-1), .release 1, .text] =
        [.ok (.key (some 1)), .error (.keyRange (-1)), .ok .done,
          .ok (.text "Keypad(pressed=[B])")] := by
  have hkeys : ∀ key ∈ [11, 1], (0 : Int) ≤ key ∧ key ≤ 15 := by decide
  obtain ⟨p, hp, h⟩ := requests_as_on_key_set hkeys
  obtain rfl : (Keypad.set {} 11 true).set 1 true = p := Except.ok.inj hp
  exact ⟨hkeys, (h _).1.symm⟩

end Keypad

end Chip8
