import Mathlib.Data.List.Forall2
import Chip8.CommandLine.Parse
import Chip8.Proofs.Arguments
import Chip8.Proofs.Numeral

/-!
# Proofs/CommandLine — a command line comes to what was written on it

Options are written as one argument for each setting, by any of its names, with the program among
them (`Options.Asks`).  Every argument is taken for its setting alone, whatever stands around it;
and what has been asked for up to some argument depends on which settings were, not on their order
(`Options.asking`).  One step lemma for values and one for those settings that take none carry
that from argument to argument.
-/

namespace Chip8

open CommandLine Setting

namespace Options

variable {o : Options} {s : Setting} {given seen : List Setting} {arguments : List String}
  {tokens : List Token} {text value : String}

/-! ## Options as they are written -/

/-- Whether a setting that takes no value is turned on. -/
def isOn (o : Options) : Setting → Bool
  | .clockTimers => o.clockTimers
  | .shiftUsesVy => o.shiftUsesVy
  | .jumpUsesVx => o.jumpUsesVx
  | .loadStoreIncrementsI => o.loadStoreIncrementsI
  | _ => false

/-- The value of a setting as it is written, if it has one. -/
def valueText? (o : Options) : Setting → Option String
  | .scale => o.scale.map toString
  | .ticksPerFrame => o.ticksPerFrame.map toString
  | .colorScheme => o.colorScheme
  | .logLevel => o.logLevel
  | _ => none

/-- Whether a text does not start like an option. -/
def Plain (text : String) : Prop := text.toList.head? ≠ some '-'

/-- Whether a number has no more digits than can be read. -/
def Readable (k : Int) : Prop := (Nat.toDigits 10 k.natAbs).length ≤ Text.digitLimit

instance (text : String) : Decidable (Plain text) :=
  inferInstanceAs (Decidable (text.toList.head? ≠ some '-'))

instance (k : Int) : Decidable (Readable k) :=
  inferInstanceAs (Decidable ((Nat.toDigits 10 k.natAbs).length ≤ Text.digitLimit))

/-- Options that can be written on a command line: no value is blank, no text starts like an option,
and no number is too long to be read. -/
structure Writable (o : Options) : Prop where
  rom : Plain o.rom
  scale : ∃ k, o.scale = some k ∧ Readable k
  ticksPerFrame : ∃ k, o.ticksPerFrame = some k ∧ Readable k
  colorScheme : ∃ name, o.colorScheme = some name ∧ Plain name
  logLevel : ∃ name, o.logLevel = some name ∧ Plain name

/-- Whether an argument asks for a setting as the options have it, by one of the setting's names. -/
def Asks (o : Options) (s : Setting) (text : String) : Prop :=
  ∃ name, Names name s ∧ text = argument name (o.valueText? s)

/-- The options with the default for every value that is not given. -/
def withDefaults (o : Options) (given : List Setting) : Options where
  rom := o.rom
  scale := if .scale ∈ given then o.scale else some 10
  ticksPerFrame := if .ticksPerFrame ∈ given then o.ticksPerFrame else some 10
  colorScheme := if .colorScheme ∈ given then o.colorScheme else some "pink"
  clockTimers := o.clockTimers
  shiftUsesVy := o.shiftUsesVy
  jumpUsesVx := o.jumpUsesVx
  loadStoreIncrementsI := o.loadStoreIncrementsI
  logLevel := if .logLevel ∈ given then o.logLevel else some "INFO"

theorem withDefaults_of_forall (h : ∀ s : Setting, s.takesValue → s ∈ given) :
    o.withDefaults given = o := by
  rw [withDefaults, if_pos (h _ rfl), if_pos (h _ rfl), if_pos (h _ rfl), if_pos (h _ rfl)]

theorem Plain.ne_separator (h : Plain text) : text ≠ "--" := by
  rintro rfl
  exact h (by decide)

/-! ## One argument after another -/

/-- What was asked for when some settings were, and no program yet. -/
def asking (o : Options) (seen : List Setting) : Options where
  rom := ""
  scale := if .scale ∈ seen then o.scale else some 10
  ticksPerFrame := if .ticksPerFrame ∈ seen then o.ticksPerFrame else some 10
  colorScheme := if .colorScheme ∈ seen then o.colorScheme else some "pink"
  clockTimers := .clockTimers ∈ seen
  shiftUsesVy := .shiftUsesVy ∈ seen
  jumpUsesVx := .jumpUsesVx ∈ seen
  loadStoreIncrementsI := .loadStoreIncrementsI ∈ seen
  logLevel := if .logLevel ∈ seen then o.logLevel else some "INFO"

theorem asking_nil (o : Options) : o.asking [] = { rom := "" } := by
  simp [asking]

/-- The settings that take no value were asked for where they are on. -/
theorem asking_eq_withDefaults
    (h : ∀ s : Setting, s.takesValue = false → (s ∈ given ↔ o.isOn s)) :
    { o.asking given with rom := o.rom } = o.withDefaults given := by
  simp [asking, withDefaults, h .clockTimers rfl, h .shiftUsesVy rfl, h .jumpUsesVx rfl,
    h .loadStoreIncrementsI rfl, isOn]

/-- An integer that was written is read as itself. -/
theorem integerValue_toString {k : Int} (h : Readable k) (s : Setting) :
    s.integerValue (toString k) = .ok k := by
  rw [integerValue, Text.integer?_toString h]

theorem toString_ne_separator {k : Int} (h : Readable k) : toString k ≠ "--" := by
  intro heq
  have hunread : Text.integer? "--" = none := by decide
  rw [← heq, Text.integer?_toString h] at hunread
  cases hunread

/-- A value is there, and is taken over. -/
theorem exists_valueText? (ho : o.Writable) (hs : s.takesValue) : ∃ value,
    o.valueText? s = some value ∧ value ≠ "--" ∧
      ∀ seen, s.apply value (o.asking seen) = .ok (o.asking (seen ++ [s])) := by
  cases s with
  | scale =>
    obtain ⟨k, hk, hreadable⟩ := ho.scale
    refine ⟨toString k, by rw [valueText?, hk]; rfl, toString_ne_separator hreadable,
      fun seen => ?_⟩
    rw [Setting.apply, integerValue_toString hreadable, Except.map]
    simp [asking, hk]
  | ticksPerFrame =>
    obtain ⟨k, hk, hreadable⟩ := ho.ticksPerFrame
    refine ⟨toString k, by rw [valueText?, hk]; rfl, toString_ne_separator hreadable,
      fun seen => ?_⟩
    rw [Setting.apply, integerValue_toString hreadable, Except.map]
    simp [asking, hk]
  | colorScheme =>
    obtain ⟨name, hname, hplain⟩ := ho.colorScheme
    exact ⟨name, hname, hplain.ne_separator, fun seen => by simp [Setting.apply, asking, hname]⟩
  | logLevel =>
    obtain ⟨name, hname, hplain⟩ := ho.logLevel
    exact ⟨name, hname, hplain.ne_separator, fun seen => by simp [Setting.apply, asking, hname]⟩
  | help | clockTimers | shiftUsesVy | jumpUsesVx | loadStoreIncrementsI => cases hs

/-- A setting without a value is turned on. -/
theorem apply_of_takesValue_eq_false (hs : s.takesValue = false) (hhelp : s ≠ .help)
    (seen : List Setting) : s.apply "" (o.asking seen) = .ok (o.asking (seen ++ [s])) := by
  cases s with
  | help => exact absurd rfl hhelp
  | clockTimers | shiftUsesVy | jumpUsesVx | loadStoreIncrementsI => simp [Setting.apply, asking]
  | scale | ticksPerFrame | colorScheme | logLevel => cases hs

theorem valueText?_of_takesValue_eq_false (hs : s.takesValue = false) : o.valueText? s = none := by
  cases s <;> first | rfl | cases hs

/-- What an argument is taken for that asks for a setting. -/
def token (o : Options) (s : Setting) : Token := .option s (o.valueText? s)

end Options

namespace CommandLine

open Options

variable {o : Options} {s : Setting} {given seen : List Setting} {arguments : List String}
  {tokens : List Token} {rom : Option String}

/-- A switch is set without a value. -/
theorem consume_of_takesValue_eq_false {p : Progress} (hs : s.takesValue = false) :
    consume (.option s none :: tokens) p =
      s.apply "" p.options >>= fun options => consume tokens { p with options } := by
  -- a word behind it would be its value if it took one, so no single case of `consume` says this
  rw [consume.eq_def]
  simp only [hs, Bool.false_eq_true, if_false]

/-- What asks for a setting is acted on where it stands. -/
theorem consume_token (ho : o.Writable) (hs : s ≠ .help) :
    consume (o.token s :: tokens) { rom, options := o.asking seen } =
      consume tokens { rom, options := o.asking (seen ++ [s]) } := by
  rw [token]
  cases htakes : s.takesValue with
  | true =>
    obtain ⟨value, hvalue, hseparator, happly⟩ := exists_valueText? ho htakes
    rw [hvalue, consume, if_pos htakes, assign, if_neg hseparator, happly]
    rfl
  | false =>
    rw [valueText?_of_takesValue_eq_false htakes, consume_of_takesValue_eq_false htakes,
      apply_of_takesValue_eq_false htakes hs]
    rfl

/-- **What asks for settings** is acted on, one after another. -/
theorem consume_tokens (ho : o.Writable) (hgiven : .help ∉ given) :
    consume (given.map o.token ++ tokens) { rom, options := o.asking seen } =
      consume tokens { rom, options := o.asking (seen ++ given) } := by
  induction given generalizing seen with
  | nil => rw [List.append_nil]; rfl
  | cons s given ih =>
    obtain ⟨hs, hgiven⟩ := not_or.1 (mt List.mem_cons.2 hgiven)
    rw [List.map_cons, List.cons_append, consume_token ho (Ne.symm hs), ih hgiven,
      List.append_assoc, List.singleton_append]

/-- A word is a word, unless a separator follows. -/
theorem consume_word {p : Progress} (text : String) (h : tokens.head? ≠ some .separator) :
    consume (.word text :: tokens) p = consume tokens (p.takeWord text) := by
  rw [consume]
  rintro rest rfl
  exact h rfl

/-- Arguments that ask for settings are taken for them. -/
theorem ofArguments_of_asks {rest : List String} (hgiven : List.Forall₂ o.Asks given arguments)
    (hrest : Token.ofArguments rest = .ok tokens) :
    Token.ofArguments (arguments ++ rest) = .ok (given.map o.token ++ tokens) := by
  induction hgiven with
  | nil => exact hrest
  | cons hasks _ ih =>
    obtain ⟨name, hname, rfl⟩ := hasks
    rw [List.cons_append, Token.ofArguments, if_neg (argument_ne_separator hname.1 _),
      Token.ofArgument_of_names hname, ih]
    rfl

section

variable {before after : List String} {front back : List Setting}

/-- Arguments that ask for settings, with the ROM somewhere between them, give one token each. -/
theorem ofArguments_around (hrom : Plain o.rom) (hfront : List.Forall₂ o.Asks front before)
    (hback : List.Forall₂ o.Asks back after) :
    Token.ofArguments (before ++ o.rom :: after) =
      .ok (front.map o.token ++ .word o.rom :: back.map o.token) := by
  refine ofArguments_of_asks hfront ?_
  have hnone : Token.ofArguments [] = .ok [] := rfl
  have hafter := ofArguments_of_asks hback hnone
  rw [List.append_nil, List.append_nil] at hafter
  rw [Token.ofArguments, if_neg hrom.ne_separator, Token.ofArgument_word hrom, hafter]
  rfl

/-- The tokens of such a line set what was asked for, and the ROM. -/
theorem consume_around (ho : o.Writable) (hfront : .help ∉ front) (hback : .help ∉ back) :
    consume (front.map o.token ++ .word o.rom :: back.map o.token) {} =
      .ok { rom := some o.rom, options := o.asking (front ++ back) } := by
  have hstart : ({} : Progress) = { rom := none, options := o.asking [] } := by rw [asking_nil]
  have hword : (back.map o.token).head? ≠ some .separator := by
    cases back <;> simp [token]
  have hrest : consume (back.map o.token ++ []) { rom := some o.rom, options := o.asking front } =
      .ok { rom := some o.rom, options := o.asking (front ++ back) } :=
    consume_tokens ho hback
  rw [List.append_nil] at hrest
  rw [hstart, consume_tokens ho hfront, consume_word o.rom hword]
  exact hrest

/-- **What is asked for comes of it**, in whatever order and by whatever names. -/
theorem parse_of_asks (ho : o.Writable) (hgiven : List.Forall₂ o.Asks given (before ++ after))
    (hflags : ∀ s : Setting, s.takesValue = false → (s ∈ given ↔ o.isOn s)) :
    parse (before ++ o.rom :: after) = .ok (o.withDefaults given) := by
  have hhelp : .help ∉ given := fun hmem => Bool.false_ne_true ((hflags .help rfl).1 hmem)
  -- the settings in front of the program and those behind it
  have hsplit := List.take_append_drop before.length given
  have htokens := ofArguments_around ho.rom (List.forall₂_take_append given before after hgiven)
    (List.forall₂_drop_append given before after hgiven)
  have hfront : .help ∉ given.take before.length := mt List.mem_of_mem_take hhelp
  have hback : .help ∉ given.drop before.length := mt List.mem_of_mem_drop hhelp
  have hconsume := consume_around ho hfront hback
  rw [hsplit] at hconsume
  rw [parse, htokens, Except.ok_bind, hconsume]
  exact congrArg Except.ok (asking_eq_withDefaults hflags)

/-- Whatever else stands on a command line, one name of a setting is as good as another. -/
theorem parse_congr {name name' : String} (hname : Names name s) (hname' : Names name' s)
    (hbefore : "--" ∉ before) (value : Option String) :
    parse (before ++ argument name value :: after) =
      parse (before ++ argument name' value :: after) := by
  have htoken : Token.ofArgument (argument name value) = Token.ofArgument (argument name' value) :=
    (Token.ofArgument_of_names hname value).trans (Token.ofArgument_of_names hname' value).symm
  rw [parse, parse, Token.ofArguments_congr hbefore (argument_ne_separator hname.1 value)
    (argument_ne_separator hname'.1 value) htoken]

/-- **A prefix that settings share is refused** wherever it stands on the line. -/
theorem exists_parse_of_shared {name : String} (h : Shared name) (hbefore : "--" ∉ before)
    (value : Option String) : ∃ given spellings,
      parse (before ++ argument name value :: after) =
        .error (.refused (.ambiguous given spellings)) := by
  obtain ⟨_, hrefused⟩ := Token.ofArgument_of_shared h value
  obtain ⟨given, spellings, htokens⟩ :=
    Token.exists_ofArguments_eq_error hbefore (argument_ne_separator h.1 value) hrefused
  refine ⟨given, spellings, ?_⟩
  rw [parse, htokens]
  rfl

end

/-- **A command line comes to what was written on it.**  Options are written with the program
among the other arguments, in any order, each setting by its spelling or by a beginning of it that
has three characters and names no other setting; those that take no value are there exactly if
they are turned on.  Then the options come of it, with the default for each value that was left
out, and the same options if none was.  On any command line a spelling and a beginning of it that
names its setting come to the same, and a beginning that several settings share is refused with
code 2. -/
theorem written_options_are_parsed :
    (∀ o : Options, o.Writable → ∀ (given : List Setting) (before after : List String),
      List.Forall₂ o.Asks given (before ++ after) →
      (∀ s : Setting, s.takesValue = false → (s ∈ given ↔ o.isOn s)) →
        parse (before ++ o.rom :: after) = .ok (o.withDefaults given) ∧
        ((∀ s : Setting, s.takesValue → s ∈ given) →
          parse (before ++ o.rom :: after) = .ok o)) ∧
    (∀ (s : Setting) (name spelling : String), Names name s → spelling ∈ s.spellings →
      3 ≤ spelling.toList.length → ∀ (value : Option String) (before after : List String),
        "--" ∉ before →
          parse (before ++ argument name value :: after) =
            parse (before ++ argument spelling value :: after)) ∧
    ∀ name : String, Shared name → ∀ (value : Option String) (before after : List String),
      "--" ∉ before →
        ∃ e, parse (before ++ argument name value :: after) = .error e ∧ e.code = 2 := by
  refine ⟨fun o ho given before after hgiven hflags => ?_, ?_, ?_⟩
  · have hparse := parse_of_asks ho hgiven hflags
    exact ⟨hparse, fun hall => hparse.trans (congrArg _ (withDefaults_of_forall hall))⟩
  · intro s name spelling hname hspelling hlong value before after hbefore
    exact parse_congr hname (names_of_mem_spellings hspelling hlong) hbefore value
  · intro name hname value before after hbefore
    obtain ⟨given, spellings, hrefused⟩ := exists_parse_of_shared hname hbefore value
    exact ⟨_, hrefused, rfl⟩

/-- Settings by short names around a program with a blank in its name, all values there or only one;
a setting by a short name on a line that is refused; and a name that two settings share. -/
theorem written_options_are_parsed_of_shortened :
    let o : Options := {
      rom := "a b.ch8", scale := some (-3), ticksPerFrame := some 0, colorScheme := some "=--x"
      logLevel := some "", shiftUsesVy := true }
    parse ["--sh", "--log-level=", "a b.ch8", "--co==--x", "--sc=-3", "--t=0"] = .ok o ∧
      parse ["--sc=-3", "a b.ch8", "--shift-uses-vy"] =
        .ok { rom := "a b.ch8", scale := some (-3), shiftUsesVy := true } ∧
      parse ["--t=x", "a"] = parse ["--ticks-per-frame=x", "a"] ∧
      ∃ e, parse ["a b.ch8", "--lo=INFO"] = .error e ∧ e.code = 2 := by
  intro o
  have ho : o.Writable := ⟨by decide, ⟨-3, rfl, by decide⟩, ⟨0, rfl, by decide⟩,
    ⟨"=--x", rfl, by decide⟩, ⟨"", rfl, by decide⟩⟩
  obtain ⟨hparse, hcongr, hshared⟩ := written_options_are_parsed
  have hscale : o.Asks .scale "--sc=-3" := ⟨"--sc", by decide, by decide⟩
  refine ⟨?_, ?_, ?_, ?_⟩
  · refine (hparse o ho [.shiftUsesVy, .logLevel, .colorScheme, .scale, .ticksPerFrame]
      ["--sh", "--log-level="] ["--co==--x", "--sc=-3", "--t=0"] ?_ ?_).2 ?_
    · exact .cons ⟨"--sh", by decide, by decide⟩ (.cons ⟨"--log-level", by decide, by decide⟩
        (.cons ⟨"--co", by decide, by decide⟩ (.cons hscale
          (.cons ⟨"--t", by decide, by decide⟩ .nil))))
    · intro s hs
      cases s <;> first | decide | cases hs
    · intro s hs
      cases s <;> first | decide | cases hs
  · refine (hparse o ho [.scale, .shiftUsesVy] ["--sc=-3"] ["--shift-uses-vy"] ?_ ?_).1
    · exact .cons hscale (.cons ⟨"--shift-uses-vy", by decide, by decide⟩ .nil)
    · intro s hs
      cases s <;> first | decide | cases hs
  · exact hcongr .ticksPerFrame "--t" "--ticks-per-frame" (by decide) (by decide) (by decide)
      (some "x") [] ["a"] (by decide)
  · have hlo : Shared "--lo" :=
      ⟨by decide, .logLevel, .loadStoreIncrementsI, by decide, by decide, by decide⟩
    exact hshared "--lo" hlo (some "INFO") ["a b.ch8"] [] (by decide)

end CommandLine

end Chip8
