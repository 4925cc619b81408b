import Scenarist.Decimal.Notation

/-!
# JSON values

A JSON value as a tree. Numbers keep the three kinds a reader tells apart: whole numbers that
fit 64 bits, negative ones that do, and floating-point numbers. An object is a list of members
in the order they are written; `canonical` brings the members of every object into the order
of their keys, the last of several equal keys winning, which is how a value without a known
shape is kept.
-/

namespace Scenarist

namespace Json

/-- A JSON number: a natural number, the negative of one, or a floating-point number. One of
single precision is never read, only written. -/
inductive Number where
  | natural (n : Nat)
  | negative (n : Nat)
  | float (x : Double)
  | single (x : Single)
deriving DecidableEq, Repr, Inhabited

/-- How floating-point numbers are written: positionally from `1e-5` up to below `1e16`. -/
def floatStyle : Decimal.Style := ⟨-5, 15, true⟩

/-- How numbers of single precision are written: positionally from `1e-5` up to below `1e7`. -/
def singleStyle : Decimal.Style := ⟨-5, 6, true⟩

/-- The text of a number; one that is not finite has none and is written as `null`. -/
def Number.text : Number → String
  | .natural n => Decimal.natText n
  | .negative n => "-" ++ Decimal.natText n
  | .float x => if x.isFinite then x.render floatStyle else "null"
  | .single x => if x.isFinite then x.render singleStyle else "null"

end Json

/-- A JSON value. -/
inductive Json where
  | null
  | bool (b : Bool)
  | number (n : Json.Number)
  | string (s : String)
  | array (items : List Json)
  | object (members : List (String × Json))
deriving Repr, Inhabited

namespace Json

mutual

/-- Two values are the same, members in the same order. -/
def beq : Json → Json → Bool
  | .null, .null => true
  | .bool a, .bool b => a == b
  | .number a, .number b => a == b
  | .string a, .string b => a == b
  | .array a, .array b => beqItems a b
  | .object a, .object b => beqMembers a b
  | _, _ => false

/-- Items are compared one by one. -/
def beqItems : List Json → List Json → Bool
  | [], [] => true
  | a :: as, b :: bs => beq a b && beqItems as bs
  | _, _ => false

/-- Members are compared one by one, with their keys. -/
def beqMembers : List (String × Json) → List (String × Json) → Bool
  | [], [] => true
  | (k, a) :: as, (l, b) :: bs => k == l && beq a b && beqMembers as bs
  | _, _ => false

end

instance : BEq Json := ⟨beq⟩

/-- Puts a member into its place by key, taking the place of one with the same key. -/
def insertMember (key : String) (value : Json) : List (String × Json) → List (String × Json)
  | [] => [(key, value)]
  | (k, v) :: rest =>
    if key < k then (key, value) :: (k, v) :: rest
    else if key = k then (key, value) :: rest
    else (k, v) :: insertMember key value rest

mutual

/-- The same value with the members of every object sorted by key, the last of equal keys
kept, numbers that are not finite replaced by `null`, and single precision widened. -/
def canonical : Json → Json
  | .number (.single x) => if x.isFinite then .number (.float x.convert) else .null
  | .number (.float x) => if x.isFinite then .number (.float x) else .null
  | .array items => .array (canonicalItems items)
  | .object members => .object (canonicalMembers [] members)
  | v => v

/-- The canonical forms of items. -/
def canonicalItems : List Json → List Json
  | [] => []
  | v :: rest => canonical v :: canonicalItems rest

/-- Members inserted one by one into those that are already sorted. -/
def canonicalMembers (sorted : List (String × Json)) : List (String × Json) → List (String × Json)
  | [] => sorted
  | (k, v) :: rest => canonicalMembers (insertMember k (canonical v) sorted) rest

end

/-- The value of a member of an object. -/
def member? (key : String) : Json → Option Json
  | .object members => members.lookup key
  | _ => none

/-- The items of an array. -/
def items? : Json → Option (List Json)
  | .array items => some items
  | _ => none

/-- The text of a string. -/
def string? : Json → Option String
  | .string s => some s
  | _ => none

/-- The natural number `n` as a value. -/
def nat (n : Nat) : Json := .number (.natural n)

/-- An object without the members whose value is absent. -/
def ofFields (fields : List (String × Option Json)) : Json :=
  .object (fields.filterMap fun (k, v) => v.map (k, ·))

end Json

end Scenarist
