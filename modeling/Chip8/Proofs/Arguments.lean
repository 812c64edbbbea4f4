import Chip8.CommandLine.Token
import Chip8.Proofs.Marks
import Chip8.Proofs.Result

/-!
# Proofs/Arguments — what an argument is taken for

An argument is a name, and behind an equals sign a value if there is one
(`CommandLine.argument`).  A name of three characters or more may be the beginning of spellings:
of one setting only, which it then names, or of several.  No spelling is the beginning of another,
and none holds an equals sign, so a complete spelling is but one of the names of its setting, and
what an argument is taken for is read off its name: the option that it names
(`Token.ofArgument_of_names`), or a refusal (`Token.ofArgument_of_shared`).
-/

namespace Chip8

namespace Setting

variable {s : Setting} {name spelling : String} {entry entry' : String × Setting}

/-! ## The dictionary -/

theorem mem_all (s : Setting) : s ∈ all := by
  cases s <;> decide

/-- The dictionary lists every spelling with its setting. -/
theorem mem_dictionary : (spelling, s) ∈ dictionary ↔ spelling ∈ s.spellings := by
  simp [dictionary, mem_all]

/-- No spelling holds the sign that divides an option from its value. -/
theorem equals_notMem_of_mem : ∀ entry ∈ dictionary, '=' ∉ entry.1.toList := by decide

/-- The spellings of three characters or more are the long ones. -/
theorem hyphens_of_mem : ∀ entry ∈ dictionary, 3 ≤ entry.1.toList.length →
    ['-', '-'] <+: entry.1.toList := by
  decide

/-- A setting has one long spelling. -/
theorem eq_of_setting_eq : ∀ entry ∈ dictionary, ∀ entry' ∈ dictionary,
    3 ≤ entry.1.toList.length → 3 ≤ entry'.1.toList.length → entry.2 = entry'.2 →
      entry = entry' := by
  decide

/-- No spelling is the beginning of another. -/
theorem eq_of_prefix : ∀ entry ∈ dictionary, ∀ entry' ∈ dictionary,
    3 ≤ entry.1.toList.length → entry.1.toList <+: entry'.1.toList → entry = entry' := by
  decide

/-- The dictionary lists no spelling twice. -/
theorem filter_dictionary : ∀ entry ∈ dictionary, dictionary.filter (· == entry) = [entry] := by
  decide

/-! ## Names -/

/-- Whether a text is the beginning of a spelling of a setting. -/
def Begins (name : String) (s : Setting) : Prop :=
  ∃ spelling ∈ s.spellings, name.toList <+: spelling.toList

/-- Whether a text names a setting: it has three characters or more, and is the beginning of a
spelling of that setting and of no other. -/
def Names (name : String) (s : Setting) : Prop :=
  3 ≤ name.toList.length ∧ Begins name s ∧ ∀ t, Begins name t → t = s

/-- Whether a text of three characters or more is the beginning of spellings of several settings. -/
def Shared (name : String) : Prop :=
  3 ≤ name.toList.length ∧ ∃ s t, s ≠ t ∧ Begins name s ∧ Begins name t

instance (name : String) (s : Setting) : Decidable (Begins name s) :=
  inferInstanceAs (Decidable (∃ spelling ∈ s.spellings, name.toList <+: spelling.toList))

instance (name : String) (s : Setting) : Decidable (Names name s) :=
  decidable_of_iff (3 ≤ name.toList.length ∧ Begins name s ∧ ∀ t ∈ all, Begins name t → t = s)
    (and_congr_right' (and_congr_right' (forall_congr' fun t => forall_prop_of_true (mem_all t))))

/-- The names that begin a spelling of a setting are the prefixes in the dictionary. -/
theorem begins_iff : Begins name s ↔
    ∃ entry ∈ dictionary, entry.2 = s ∧ name.toList <+: entry.1.toList := by
  constructor
  · rintro ⟨spelling, hspelling, hstart⟩
    exact ⟨(spelling, s), mem_dictionary.2 hspelling, rfl, hstart⟩
  · rintro ⟨⟨spelling, _⟩, hentry, rfl, hstart⟩
    exact ⟨spelling, mem_dictionary.1 hentry, hstart⟩

/-- **A complete spelling** names its setting. -/
theorem names_of_mem_spellings (h : spelling ∈ s.spellings) (hlong : 3 ≤ spelling.toList.length) :
    Names spelling s := by
  refine ⟨hlong, ⟨spelling, h, List.prefix_rfl⟩, fun t ht => ?_⟩
  obtain ⟨entry, hentry, rfl, hstart⟩ := begins_iff.1 ht
  rw [← eq_of_prefix _ (mem_dictionary.2 h) entry hentry hlong hstart]

theorem Begins.equals_notMem (h : Begins name s) : '=' ∉ name.toList := by
  obtain ⟨entry, hentry, _, hstart⟩ := begins_iff.1 h
  exact fun hmem => equals_notMem_of_mem entry hentry (hstart.subset hmem)

/-- A name of three characters or more begins with the two hyphens of the long spelling it
begins. -/
theorem Begins.exists_hyphens (h : Begins name s) (hlong : 3 ≤ name.toList.length) :
    ∃ rest, name.toList = '-' :: '-' :: rest := by
  obtain ⟨entry, hentry, _, hstart⟩ := begins_iff.1 h
  have hhyphens := hyphens_of_mem entry hentry (Nat.le_trans hlong hstart.length_le)
  have htwo : ['-', '-'].length ≤ name.toList.length := Nat.le_trans (by decide) hlong
  obtain ⟨rest, hrest⟩ := List.prefix_of_prefix_length_le hhyphens hstart htwo
  exact ⟨rest, hrest.symm⟩

/-! ## Spellings and completions of a name -/

theorem mem_of_ofSpelling? (h : ofSpelling? name = some s) : (name, s) ∈ dictionary := by
  obtain ⟨before, after, hdictionary, _⟩ := List.lookup_eq_some_iff.1 h
  rw [hdictionary]
  exact List.mem_append_right before List.mem_cons_self

/-- A name that is a spelling as it stands means the setting of that spelling. -/
theorem Names.of_ofSpelling? {t : Setting} (h : Names name s) (ht : ofSpelling? name = some t) :
    t = s :=
  h.2.2 t (begins_iff.2 ⟨(name, t), mem_of_ofSpelling? ht, rfl, List.prefix_rfl⟩)

/-- A prefix that settings share is itself a spelling of none. -/
theorem ofSpelling?_of_shared (h : Shared name) : ofSpelling? name = none := by
  obtain ⟨hlong, s, t, hne, hs, ht⟩ := h
  refine Option.eq_none_iff_forall_ne_some.2 fun u hu => hne ?_
  obtain ⟨entry, hentry, rfl, hstart⟩ := begins_iff.1 hs
  obtain ⟨entry', hentry', rfl, hstart'⟩ := begins_iff.1 ht
  have hmem := mem_of_ofSpelling? hu
  rw [← eq_of_prefix _ hmem entry hentry hlong hstart,
    ← eq_of_prefix _ hmem entry' hentry' hlong hstart']

theorem Shared.exists_begins (h : Shared name) : ∃ s, Begins name s := by
  obtain ⟨_, s, _, _, hs, _⟩ := h
  exact ⟨s, hs⟩

/-- A name has one completion, and it is a spelling of what the name means. -/
theorem completions_of_names (h : Names name s) :
    ∃ spelling, completions name = [(spelling, s)] := by
  obtain ⟨hlong, hbegins, honly⟩ := h
  obtain ⟨⟨spelling, _⟩, hentry, rfl, hstart⟩ := begins_iff.1 hbegins
  refine ⟨spelling, Eq.trans ?_ (filter_dictionary _ hentry)⟩
  refine List.filter_congr fun entry' hentry' => ?_
  rw [Bool.eq_iff_iff, List.isPrefixOf_iff_prefix, beq_iff_eq]
  constructor
  · intro hstart'
    have hsetting := honly entry'.2 (begins_iff.2 ⟨entry', hentry', rfl, hstart'⟩)
    exact eq_of_setting_eq _ hentry' _ hentry (Nat.le_trans hlong hstart'.length_le)
      (Nat.le_trans hlong hstart.length_le) hsetting
  · rintro rfl
    exact hstart

/-- A shared prefix has more than one completion. -/
theorem completions_of_shared (h : Shared name) :
    ∃ first second more, completions name = first :: second :: more := by
  obtain ⟨_, s, t, hne, hs, ht⟩ := h
  have hmem {u : Setting} (hu : Begins name u) : ∃ entry ∈ completions name, entry.2 = u := by
    obtain ⟨entry, hentry, rfl, hstart⟩ := begins_iff.1 hu
    exact ⟨entry, List.mem_filter.2 ⟨hentry, List.isPrefixOf_iff_prefix.2 hstart⟩, rfl⟩
  obtain ⟨entry, hentry, rfl⟩ := hmem hs
  obtain ⟨entry', hentry', rfl⟩ := hmem ht
  obtain hnil | ⟨first, hone⟩ | ⟨first, second, more, hmore⟩ :
      completions name = [] ∨ (∃ first, completions name = [first]) ∨
        ∃ first second more, completions name = first :: second :: more := by
    rcases completions name with _ | ⟨first, _ | ⟨second, more⟩⟩ <;> simp
  · exact absurd (hnil ▸ hentry) List.not_mem_nil
  · rw [hone, List.mem_singleton] at hentry hentry'
    exact absurd (congrArg Prod.snd (hentry.trans hentry'.symm)) hne
  · exact ⟨first, second, more, hmore⟩

end Setting

/-! ## Arguments -/

namespace CommandLine

/-- A name as an argument, and behind an equals sign a value if there is one. -/
def argument (name : String) : Option String → String
  | none => name
  | some value => name ++ "=" ++ value

theorem toList_argument (name : String) (value : Option String) :
    (argument name value).toList =
      name.toList ++ value.elim [] fun value => '=' :: value.toList := by
  cases value with
  | none => exact (List.append_nil _).symm
  | some value =>
    rw [argument, String.toList_append, String.toList_append, List.append_assoc]
    rfl

/-- No option is mistaken for the mark that ends the options. -/
theorem argument_ne_separator {name : String} (h : 3 ≤ name.toList.length) (value : Option String) :
    argument name value ≠ "--" := by
  intro heq
  have hlength := congrArg (·.toList.length) heq
  have htwo : "--".toList.length = 2 := by decide
  rw [toList_argument, List.length_append, htwo] at hlength
  omega

end CommandLine

namespace Token

open CommandLine Setting

variable {name text : String} {s : Setting} {value : Option String}

/-- An argument is cut into what it is put together from. -/
theorem cutAtEquals_argument (h : '=' ∉ name.toList) (value : Option String) :
    cutAtEquals (argument name value).toList = (name, value) := by
  rw [toList_argument, cutAtEquals]
  cases value with
  | none =>
    rw [Option.elim_none, List.append_nil, Text.span_of_notMem h]
    exact Prod.ext String.ofList_toList rfl
  | some value =>
    rw [Option.elim_some, Text.span_append_cons h]
    exact Prod.ext String.ofList_toList (congrArg some String.ofList_toList)

/-- An argument with a value spells no option. -/
theorem ofSpelling?_argument_some (name value : String) :
    ofSpelling? (argument name (some value)) = none := by
  refine Option.eq_none_iff_forall_ne_some.2 fun s hs => ?_
  refine equals_notMem_of_mem _ (mem_of_ofSpelling? hs) ?_
  rw [toList_argument]
  simp

/-- A word that does not start with a hyphen. -/
theorem ofArgument_word (h : text.toList.head? ≠ some '-') :
    ofArgument text = .ok (.word text) := by
  rw [ofArgument]
  split
  · next heq => exact absurd (by rw [heq]; rfl) h
  · rfl

/-- An argument whose name is not spelled out is no assignment. -/
theorem ofAssignment?_of_none (h : ofSpelling? name = none) (hequals : '=' ∉ name.toList) :
    ofAssignment? (argument name value) = none := by
  rw [ofAssignment?, cutAtEquals_argument hequals]
  cases value with
  | none => rfl
  | some value => simp only [h]

/-- An argument with a name that is spelled out assigns its value to the setting. -/
theorem ofAssignment?_of_some (h : ofSpelling? name = some s) (hequals : '=' ∉ name.toList)
    (hshort : name ≠ "-h") (value : String) :
    ofAssignment? (argument name (some value)) = some (.option s (some value)) := by
  rw [ofAssignment?, cutAtEquals_argument hequals]
  cases s <;> simp only [h, if_neg hshort]

section

variable {rest : List Char}

theorem exists_toList_argument (h : name.toList = '-' :: '-' :: rest) (value : Option String) :
    ∃ more, (argument name value).toList = '-' :: '-' :: more := by
  rw [toList_argument, h]
  exact ⟨_, rfl⟩

/-- A spelling is taken for its setting, with a value behind it or without. -/
theorem ofArgument_of_some (h : ofSpelling? name = some s)
    (hhyphens : name.toList = '-' :: '-' :: rest) (hequals : '=' ∉ name.toList)
    (value : Option String) :
    ofArgument (argument name value) = .ok (.option s value) := by
  have hshort : name ≠ "-h" := by
    rintro rfl
    exact absurd hhyphens (by simp)
  obtain ⟨more, htext⟩ := exists_toList_argument hhyphens value
  cases value with
  | none =>
    have hspelling : ofSpelling? (argument name none) = some s := h
    simp only [ofArgument, htext, hspelling]
  | some value =>
    simp only [ofArgument, htext, ofSpelling?_argument_some,
      ofAssignment?_of_some h hequals hshort]

/-- A long argument whose name is not spelled out is read as a prefix. -/
theorem ofArgument_of_none (h : ofSpelling? name = none)
    (hhyphens : name.toList = '-' :: '-' :: rest) (hequals : '=' ∉ name.toList)
    (value : Option String) :
    ofArgument (argument name value) = ofShortened (argument name value) := by
  have hspelling : ofSpelling? (argument name value) = none := by
    cases value with
    | none => exact h
    | some value => exact ofSpelling?_argument_some name value
  obtain ⟨more, htext⟩ := exists_toList_argument hhyphens value
  simp only [ofArgument, htext, hspelling, ofAssignment?_of_none h hequals]

end

/-- **An argument that names a setting** is taken for it, by whatever name. -/
theorem ofArgument_of_names (h : Names name s) (value : Option String) :
    ofArgument (argument name value) = .ok (.option s value) := by
  have hequals := h.2.1.equals_notMem
  obtain ⟨rest, hhyphens⟩ := h.2.1.exists_hyphens h.1
  cases hspelling : ofSpelling? name with
  | some t =>
    obtain rfl := h.of_ofSpelling? hspelling
    exact ofArgument_of_some hspelling hhyphens hequals value
  | none =>
    -- a name that is no complete spelling has one completion
    obtain ⟨spelling, hcompletions⟩ := completions_of_names h
    obtain ⟨more, htext⟩ := exists_toList_argument hhyphens value
    rw [ofArgument_of_none hspelling hhyphens hequals, ofShortened, cutAtEquals_argument hequals]
    simp only [htext, hcompletions]

/-- **An argument whose name is shared** is refused. -/
theorem ofArgument_of_shared (h : Shared name) (value : Option String) :
    ∃ spellings, ofArgument (argument name value) =
      .error (.refused (.ambiguous (argument name value) spellings)) := by
  obtain ⟨s, hs⟩ := h.exists_begins
  have hequals := hs.equals_notMem
  obtain ⟨rest, hhyphens⟩ := hs.exists_hyphens h.1
  obtain ⟨first, second, more, hcompletions⟩ := completions_of_shared h
  obtain ⟨_, htext⟩ := exists_toList_argument hhyphens value
  rw [ofArgument_of_none (ofSpelling?_of_shared h) hhyphens hequals, ofShortened,
    cutAtEquals_argument hequals]
  simp only [htext, hcompletions]
  exact ⟨_, rfl⟩

/-- Prefixes are refused for one reason: that settings share them. -/
theorem ofShortened_eq_error {e : Exit} (h : ofShortened text = .error e) :
    ∃ spellings, e = .refused (.ambiguous text spellings) := by
  simp only [ofShortened] at h
  split at h
  · split at h
    · cases h
    · cases h
    · exact ⟨_, (Except.error.inj h).symm⟩
  · cases h
  · cases h

/-- Nothing else is refused for what it is. -/
theorem ofArgument_eq_error {e : Exit} (h : ofArgument text = .error e) :
    ∃ spellings, e = .refused (.ambiguous text spellings) := by
  rw [ofArgument] at h
  split at h
  · split at h
    · cases h
    · cases h
    · exact ofShortened_eq_error h
  · cases h

/-! ## Lists of arguments -/

/-- Arguments that are taken for the same are the same to those around them. -/
theorem ofArguments_congr {before after : List String} {text' : String} (hbefore : "--" ∉ before)
    (htext : text ≠ "--") (htext' : text' ≠ "--") (h : ofArgument text = ofArgument text') :
    ofArguments (before ++ text :: after) = ofArguments (before ++ text' :: after) := by
  induction before with
  | nil =>
    rw [List.nil_append, List.nil_append, ofArguments, ofArguments, if_neg htext, if_neg htext', h]
  | cons first before ih =>
    obtain ⟨hfirst, hbefore⟩ := not_or.1 (mt List.mem_cons.2 hbefore)
    rw [List.cons_append, List.cons_append, ofArguments, ofArguments, if_neg (Ne.symm hfirst),
      if_neg (Ne.symm hfirst), ih hbefore]

/-- One argument that is refused is enough. -/
theorem exists_ofArguments_eq_error {before after : List String} {e : Exit}
    (hbefore : "--" ∉ before) (htext : text ≠ "--") (h : ofArgument text = .error e) :
    ∃ given spellings, ofArguments (before ++ text :: after) =
      .error (.refused (.ambiguous given spellings)) := by
  induction before with
  | nil =>
    obtain ⟨spellings, rfl⟩ := ofArgument_eq_error h
    refine ⟨text, spellings, ?_⟩
    rw [List.nil_append, ofArguments, if_neg htext, h]
    rfl
  | cons first before ih =>
    obtain ⟨hfirst, hbefore⟩ := not_or.1 (mt List.mem_cons.2 hbefore)
    obtain ⟨given, spellings, hrest⟩ := ih hbefore
    rw [List.cons_append, ofArguments, if_neg (Ne.symm hfirst)]
    cases htoken : ofArgument first with
    | error e' =>
      obtain ⟨spellings', rfl⟩ := ofArgument_eq_error htoken
      exact ⟨first, spellings', rfl⟩
    | ok token =>
      refine ⟨given, spellings, ?_⟩
      rw [Except.ok_bind, hrest]
      rfl

end Token

end Chip8
