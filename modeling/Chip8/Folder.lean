/-!
# Folder — the files that a program can be loaded from

A folder holds one file at most, and lies among the temporary files of a system.  A path is walked
name by name, from the folder itself or, if it starts with a slash, from the root of the system:
`.` and the empty name stay, `..` goes up, and any other name has to be there.  Nothing lies behind
a file, not even an empty name.  A file is put where a path leads whose last name is a name and
nothing follows it.
-/

namespace Chip8

/-- Why a file cannot be read or put somewhere. -/
inductive FileFailure
  | missing
  /-- The path leads to a folder. -/
  | isFolder
  /-- The path goes on behind a file. -/
  | notFolder
  | nameTooLong
  /-- The path has a character with the code zero. -/
  | zeroInPath
  deriving DecidableEq, Repr

/-- A place where files can lie. -/
inductive Place
  | root
  /-- A folder right under the root. -/
  | system (name : String)
  /-- The folder that programs are loaded from. -/
  | own
  deriving DecidableEq, Repr

/-- The place that a place lies in; the root lies in itself. -/
def Place.up : Place → Place
  | root | system _ => root
  | own => system "tmp"

/-- What a path leads to. -/
inductive PathEnd
  | place (p : Place)
  | file (contents : List UInt8)
  deriving DecidableEq, Repr

/-- A file, under its name in a place. -/
structure PlacedFile where
  place : Place
  name : String
  contents : List UInt8
  deriving DecidableEq, Repr

/-- A folder, with the one file that there is at most. -/
structure Folder where
  file : Option PlacedFile := none
  deriving DecidableEq, Repr

namespace Folder

/-- How many bytes a name may have. -/
def nameLimit : Nat := 255

/-- How many bytes a path may have. -/
def pathLimit : Nat := 4095

/-- The folders that lie right under the root. -/
def systemFolders : List String :=
  ["bin", "boot", "dev", "etc", "home", "lib", "media", "mnt", "opt", "proc", "root", "run", "sbin",
    "srv", "sys", "tmp", "usr", "var"]

/-- What every system has in a place under a name; what is written to the empty device is gone. -/
def common? (p : Place) (name : String) : Option PathEnd :=
  match p with
  | .root => if name ∈ systemFolders then some (.place (.system name)) else none
  | .system "dev" => if name = "null" then some (.file []) else none
  | _ => none

/-- What lies in a place under a name. -/
def child? (f : Folder) (p : Place) (name : String) : Option PathEnd :=
  match f.file with
  | some own =>
    if own.place = p ∧ own.name = name then some (.file own.contents) else common? p name
  | none => common? p name

/-- A step of a walk. -/
def step (f : Folder) (e : PathEnd) (name : String) : Except FileFailure PathEnd :=
  match e, name with
  | .file _, _ => .error .notFolder
  | .place p, "" | .place p, "." => .ok (.place p)
  | .place p, ".." => .ok (.place p.up)
  | .place p, name =>
    if nameLimit < name.utf8ByteSize then .error .nameTooLong
    else
      match f.child? p name with
      | some e => .ok e
      | none => .error .missing

/-- A walk along names. -/
def walk (f : Folder) : PathEnd → List String → Except FileFailure PathEnd
  | e, [] => .ok e
  | e, name :: rest => do
    let e ← f.step e name
    walk f e rest

/-- Fails unless a text can be a path. -/
def checkPath (path : String) : Except FileFailure Unit :=
  if path.toList.contains '\x00' then .error .zeroInPath
  else if path.isEmpty then .error .missing
  else if pathLimit < path.utf8ByteSize then .error .nameTooLong
  else .ok ()

/-- Where a path starts. -/
def start (path : String) : PathEnd :=
  .place (if path.toList.head? = some '/' then .root else .own)

/-- What a path leads to. -/
def find (f : Folder) (path : String) : Except FileFailure PathEnd := do
  checkPath path
  f.walk (start path) (path.splitOn "/")

/-- The bytes of the file that a path leads to. -/
def read (f : Folder) (path : String) : Except FileFailure (List UInt8) := do
  match ← f.find path with
  | .file contents => return contents
  | .place _ => throw .isFolder

/-- An empty folder after a file was put where a path leads.  A path that ends with a slash, with
`.` or with `..` leads to a folder, whatever is there. -/
def holding (path : String) (contents : List UInt8) : Except FileFailure Folder := do
  checkPath path
  let names := (path.splitOn "/").reverse
  let above := (names.dropWhile (· = "")).tail.reverse
  let name := names.headD ""
  match ← walk {} (start path) above with
  | .file _ => throw .notFolder
  | .place p =>
    if name ∈ ["", ".", ".."] then
      throw .isFolder
    if nameLimit < name.utf8ByteSize then
      throw .nameTooLong
    match common? p name with
    | some (.place _) => throw .isFolder
    | some (.file _) => return {}
    | none => return { file := some ⟨p, name, contents⟩ }

end Folder

end Chip8
