import Scenarist.Json.Document

/-!
# TOML values

The values of the TOML format. A table is a list of members in the order in which they are
written. A value is turned into a JSON document to be read into a typed value, a date becoming
a table with a single reserved member; a JSON value that has no `null` in it and whose whole
numbers fit 64 bits with a sign is turned into a TOML value to be written.
-/

namespace Scenarist

/-- A TOML value. -/
inductive Toml where
  | string (s : String)
  | integer (n : Int)
  | float (x : Double)
  | bool (b : Bool)
  /-- A date, a time or both, as it is written. -/
  | date (text : String)
  | array (items : List Toml)
  | table (members : List (String × Toml))
deriving Repr, Inhabited

namespace Toml

/-- The key of the reserved member that stands for a date. -/
def dateKey : String := "$__toml_private_datetime"

/-- A whole number as a JSON number. -/
def wholeNumber (n : Int) : Json.Number :=
  if n < 0 then .negative n.natAbs else .natural n.natAbs

mutual

/-- A value as a JSON document. -/
def toDocument : Toml → Json.Document
  | .string s => .string (some s)
  | .integer n => .number (some (wholeNumber n))
  | .float x => .number (some (.float x))
  | .bool b => .bool b
  | .date text => .object [(some dateKey, .string (some text))] true
  | .array items => .array (itemsToDocument items) true
  | .table members => .object (membersToDocument members) true

/-- The items of an array as documents. -/
def itemsToDocument : List Toml → List Json.Document
  | [] => []
  | v :: vs => toDocument v :: itemsToDocument vs

/-- The members of a table as those of an object. -/
def membersToDocument : List (String × Toml) → List (Option String × Json.Document)
  | [] => []
  | (k, v) :: vs => (some k, toDocument v) :: membersToDocument vs

end

mutual

/-- The TOML value of a JSON value, if it has one. -/
def ofJson? : Json → Option Toml
  | .null => none
  | .bool b => some (.bool b)
  | .number (.natural n) => if n < Nat.pow 2 63 then some (.integer n) else none
  | .number (.negative n) => some (.integer (-(n : Int)))
  | .number (.float x) => some (.float x)
  | .number (.single x) => some (.float x.convert)
  | .string s => some (.string s)
  | .array items => (itemsOfJson? items).map .array
  | .object members => (membersOfJson? members).map .table

/-- The items of an array as TOML values, if each of them has one. -/
def itemsOfJson? : List Json → Option (List Toml)
  | [] => some []
  | v :: vs => do
    let x ← ofJson? v
    let xs ← itemsOfJson? vs
    return x :: xs

/-- The members of an object as those of a table, if the value of each has a TOML value. -/
def membersOfJson? : List (String × Json) → Option (List (String × Toml))
  | [] => some []
  | (k, v) :: vs => do
    let x ← ofJson? v
    let xs ← membersOfJson? vs
    return (k, x) :: xs

end

end Toml

end Scenarist
