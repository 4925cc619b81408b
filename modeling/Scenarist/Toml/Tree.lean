import Scenarist.Toml.Basic

/-!
# Building tables

The tables of a TOML text are built line by line. A table that came into being because it lies
on the way to another one is open: a header may still define it. A table made by dotted keys is
open for more dotted keys in the same place, and for nothing else.
-/

namespace Scenarist.Toml

/-- A table while it is built. -/
inductive Node where
  /-- A finished value. -/
  | leaf (v : Toml)
  /-- A table: whether it was only on the way to another, whether by dotted keys, and its
  members. -/
  | table (implicit dotted : Bool) (members : List (String × Node))
  /-- An array of tables, the latest first. -/
  | tables (elements : List (List (String × Node)))

/-- The members of a table. -/
abbrev Members := List (String × Node)

namespace Node

/-- Replaces the member under a key, or adds it at the end. -/
def put (key : String) (n : Node) : Members → Members
  | [] => [(key, n)]
  | (k, m) :: rest => if k = key then (k, n) :: rest else (k, m) :: put key n rest

/-- Changes the table at the end of a path of headers. -/
def within (path : List String) (f : Members → Option Members) (members : Members) :
    Option Members :=
  match path with
  | [] => f members
  | key :: rest =>
    match members.lookup key with
    | none => (within rest f []).map fun ms => put key (.table true false ms) members
    | some (.table implicit dotted inner) =>
      (within rest f inner).map fun ms => put key (.table implicit dotted ms) members
    | some (.tables (latest :: earlier)) =>
      (within rest f latest).map fun ms => put key (.tables (ms :: earlier)) members
    | some _ => none

/-- Adds a value under a key that is not taken. -/
def addValue (key : String) (v : Toml) (members : Members) : Option Members :=
  match members.lookup key with
  | none => some (put key (.leaf v) members)
  | some _ => none

/-- Adds a value under a dotted key; `dotted` says whether the table was made by dotted keys. -/
def addDotted (v : Toml) : List String → Members → Option Members
  | [], _ => none
  | [key], members => addValue key v members
  | key :: rest, members =>
    match members.lookup key with
    | none => (addDotted v rest []).map fun ms => put key (.table true true ms) members
    | some (.table true dotted inner) =>
      if !dotted && rest.length = 1 then none
      else (addDotted v rest inner).map fun ms => put key (.table true dotted ms) members
    | some _ => none

/-- Opens the table with the given last key. -/
def openTable (key : String) (members : Members) : Option Members :=
  match members.lookup key with
  | none => some (put key (.table false false []) members)
  | some (.table true false inner) => some (put key (.table false false inner) members)
  | some _ => none

/-- Adds a table to the array with the given last key. -/
def openElement (key : String) (members : Members) : Option Members :=
  match members.lookup key with
  | none => some (put key (.tables [[]]) members)
  | some (.tables elements) => some (put key (.tables ([] :: elements)) members)
  | some _ => none

mutual

/-- The value of a finished node. -/
def finish : Node → Toml
  | .leaf v => v
  | .table _ _ members => .table (finishMembers members)
  | .tables elements => .array (finishElements elements).reverse

def finishMembers : List (String × Node) → List (String × Toml)
  | [] => []
  | (k, n) :: rest => (k, finish n) :: finishMembers rest

def finishElements : List (List (String × Node)) → List Toml
  | [] => []
  | ms :: rest => .table (finishMembers ms) :: finishElements rest

end

end Node

end Scenarist.Toml
