import Scenarist.Decimal.Notation

/-!
# File trees

The files and directories below a working directory: a map from paths to entries. A path is
followed from directory to directory, its parts being separated by slashes; an empty part or a
single dot stays where it is, two dots lead to the directory above.

## Main results

* `lookup_put`, `lookup_put_of_ne`: an entry is found where it was put, and nothing else changes.
-/

namespace Scenarist

/-- Why a file could not be read or written, or a directory not be made. -/
inductive FileError where
  | notFound
  | exists
  | notDirectory
  | isDirectory
  | nameTooLong
  | invalidName
  | notText
  | other (reason : String)
deriving DecidableEq, Repr

/-- The wording of a file error. -/
def FileError.message : FileError → String
  | .notFound => "No such file or directory (os error 2)"
  | .exists => "File exists (os error 17)"
  | .notDirectory => "Not a directory (os error 20)"
  | .isDirectory => "Is a directory (os error 21)"
  | .nameTooLong => "File name too long (os error 36)"
  | .invalidName => "file name contained an unexpected NUL byte"
  | .notText => "stream did not contain valid UTF-8"
  | .other reason => reason

/-- A place in a tree: the names on the way to it. -/
abbrev Place := List String

/-- What is at a place. -/
inductive Entry where
  | file (content : String)
  | directory
deriving DecidableEq, Repr

/-- Files and directories; the place without names is a directory always. -/
structure FileTree where
  entries : List (Place × Entry)
deriving DecidableEq, Repr, Inhabited

namespace FileTree

/-- The tree without any entry. -/
def empty : FileTree := ⟨[]⟩

/-- What is at a place. -/
def lookup (t : FileTree) (p : Place) : Option Entry :=
  if p = [] then some .directory else t.entries.lookup p

/-- Puts an entry at a place of a list, in place of the one that is there. -/
def putEntry (p : Place) (e : Entry) : List (Place × Entry) → List (Place × Entry)
  | [] => [(p, e)]
  | (q, f) :: rest => if p = q then (p, e) :: rest else (q, f) :: putEntry p e rest

/-- The tree with an entry at a place. -/
def put (t : FileTree) (p : Place) (e : Entry) : FileTree := ⟨putEntry p e t.entries⟩

theorem lookup_cons_of_ne {p q : Place} (e : Entry) (l : List (Place × Entry)) (h : q ≠ p) :
    ((p, e) :: l).lookup q = l.lookup q := by
  have hb : (q == p) = false := beq_false_of_ne h
  rw [List.lookup_cons, hb]

theorem lookup_putEntry (p q : Place) (e : Entry) (l : List (Place × Entry)) :
    (putEntry p e l).lookup q = if q = p then some e else l.lookup q := by
  induction l with
  | nil =>
    by_cases h : q = p
    · subst h; simp [putEntry]
    · simp [putEntry, lookup_cons_of_ne, h]
  | cons x l ih =>
    obtain ⟨r, f⟩ := x
    unfold putEntry
    by_cases hr : p = r
    · subst hr
      by_cases h : q = p
      · subst h; simp
      · simp [lookup_cons_of_ne, h]
    · rw [if_neg hr]
      by_cases hq : q = r
      · subst hq
        simp [Ne.symm hr]
      · rw [lookup_cons_of_ne _ _ hq, ih, lookup_cons_of_ne _ _ hq]

/-- What has been put at a place is found there. -/
theorem lookup_put (t : FileTree) (p : Place) (e : Entry) (h : p ≠ []) :
    (t.put p e).lookup p = some e := by
  simp [lookup, put, h, lookup_putEntry]

/-- Putting an entry at a place changes no other place. -/
theorem lookup_put_of_ne (t : FileTree) {p q : Place} (e : Entry) (h : q ≠ p) :
    (t.put p e).lookup q = t.lookup q := by
  by_cases hq : q = []
  · simp [lookup, hq]
  · simp [lookup, put, hq, lookup_putEntry, h]

/-! ### Paths -/

/-- Cuts a path at its slashes. -/
def partsOf : List Char → List (List Char)
  | [] => [[]]
  | c :: cs =>
    match partsOf cs with
    | [] => [[c]]
    | p :: ps => if c = '/' then [] :: p :: ps else (c :: p) :: ps

/-- The parts of a path. An absolute path starts with a part of its own, which is no name. -/
def parts (path : String) : List String :=
  let ps := (partsOf path.toList).map String.ofList
  if path.toList.head? = some '/' then "/" :: ps else ps

/-- Follows the parts of a path from the place `here`; every part but the last must lead into a
directory. -/
def follow (t : FileTree) (here : Place) : List String → Except FileError Place
  | [] => .ok here
  | part :: rest =>
    match t.lookup here with
    | none => .error .notFound
    | some (.file _) => .error .notDirectory
    | some .directory =>
      if part = "" || part = "." then follow t here rest
      else if part = ".." then follow t here.dropLast rest
      else if 255 < part.utf8ByteSize then .error .nameTooLong
      else follow t (here ++ [part]) rest

/-- The place a path leads to. -/
def place (t : FileTree) (path : String) : Except FileError Place :=
  if path.toList.contains '\x00' then .error .invalidName
  else if 4096 ≤ path.utf8ByteSize then .error .nameTooLong
  else if path = "" then .error .notFound
  else follow t [] (parts path)

/-! ### Files and directories -/

/-- There is something where the path leads. -/
def exists? (t : FileTree) (path : String) : Bool :=
  match t.place path with
  | .ok p => (t.lookup p).isSome
  | .error _ => false

/-- The content of a file. -/
def read (t : FileTree) (path : String) : Except FileError String :=
  match t.place path with
  | .error e => .error e
  | .ok p =>
    match t.lookup p with
    | none => .error .notFound
    | some .directory => .error .isDirectory
    | some (.file s) => .ok s

/-- Writes a file into a directory, in place of the one that is there. -/
def write (t : FileTree) (path content : String) : Except FileError FileTree :=
  match t.place path with
  | .error e => .error e
  | .ok p =>
    match t.lookup p with
    | some .directory => .error .isDirectory
    | some (.file _) => .ok (t.put p (.file content))
    | none =>
      match t.lookup p.dropLast with
      | some .directory => .ok (t.put p (.file content))
      | some (.file _) => .error .notDirectory
      | none => .error .notFound

/-- Follows the parts of a path and makes the directories that are missing on the way. -/
def makeAlong (t : FileTree) (here : Place) : List String → Except FileError FileTree
  | [] => .ok t
  | part :: rest =>
    if part = "" || part = "." then makeAlong t here rest
    else if part = ".." then makeAlong t here.dropLast rest
    else if 255 < part.utf8ByteSize then .error .nameTooLong
    else
      let next := here ++ [part]
      match t.lookup next with
      | some .directory => makeAlong t next rest
      | some (.file _) => if rest.isEmpty then .error .exists else .error .notDirectory
      | none => makeAlong (t.put next .directory) next rest

/-- Makes a directory and those above it. -/
def makeDirectories (t : FileTree) (path : String) : Except FileError FileTree :=
  if path.toList.contains '\x00' then .error .invalidName
  else if 4096 ≤ path.utf8ByteSize then .error .nameTooLong
  else makeAlong t [] (parts path)

/-- The files of a tree with their paths. -/
def files (t : FileTree) : List (String × String) :=
  t.entries.filterMap fun (p, e) =>
    match e with
    | .file s => some ("/".intercalate p, s)
    | .directory => none

end FileTree

end Scenarist
