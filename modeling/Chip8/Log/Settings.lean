/-!
# Log/Settings — settings, each under its name

A setting is a name with the text of its value.  No name stands for two settings: when one is given
again the later value counts, in the place where the name first stood.
-/

namespace Chip8

/-- Settings, in the order in which they are shown. -/
structure Settings where
  /-- The names, each with the text of its value. -/
  entries : List (String × String)
  nodup : (entries.map Prod.fst).Nodup

namespace Settings

/-- Names and values with one more. -/
def putEntry (name value : String) : List (String × String) → List (String × String)
  | [] => [(name, value)]
  | s :: rest => if s.1 = name then (name, value) :: rest else s :: putEntry name value rest

variable {name value : String} {kept : List (String × String)}

/-- The names after an entry is put are those before it and its own. -/
theorem mem_map_fst_putEntry {other : String} :
    other ∈ (putEntry name value kept).map Prod.fst ↔ other = name ∨ other ∈ kept.map Prod.fst := by
  induction kept with
  | nil => simp [putEntry]
  | cons s rest ih =>
    rw [putEntry]
    split
    · next hname => simp [hname]
    · rw [List.map_cons, List.mem_cons, ih, List.map_cons, List.mem_cons]
      exact or_left_comm

/-- An entry that is put leaves every name once. -/
theorem nodup_putEntry (h : (kept.map Prod.fst).Nodup) :
    ((putEntry name value kept).map Prod.fst).Nodup := by
  induction kept with
  | nil => simp [putEntry]
  | cons s rest ih =>
    obtain ⟨hs, hrest⟩ := List.nodup_cons.1 h
    rw [putEntry]
    split
    · next hname => exact hname ▸ h
    · next hname =>
      refine List.nodup_cons.2 ⟨fun hmem => ?_, ih hrest⟩
      exact (mem_map_fst_putEntry.1 hmem).elim hname hs

/-- The settings with one more. -/
def put (s : Settings) (name value : String) : Settings :=
  ⟨putEntry name value s.entries, nodup_putEntry s.nodup⟩

/-- The settings that are given one after another. -/
def ofList (given : List (String × String)) : Settings :=
  given.foldl (fun s e => s.put e.1 e.2) ⟨[], List.nodup_nil⟩

end Settings

end Chip8
