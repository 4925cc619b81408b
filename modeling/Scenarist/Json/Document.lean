import Scenarist.Json.Token

/-!
# Documents

A document is what a JSON text says, as far as it makes sense: a tree whose last branch may
end in `broken`, where the text stops being JSON. Members keep their order and their
duplicates. Reading a document into a typed value (`Json/Record`) therefore meets the faults
of the text and the faults of its shape in the order in which they stand in the text.

What a reader skips has to be well formed only (`isWellFormed`); what it keeps must also have
a value, and may nest at most 127 brackets (`toJson?`).
-/

namespace Scenarist.Json

/-- A JSON text as far as it makes sense. -/
inductive Document where
  /-- The text is not JSON from here on. -/
  | broken
  | null
  | bool (b : Bool)
  /-- A number, or `none` beyond the largest one. -/
  | number (value : Option Number)
  /-- A string, or `none` with half a surrogate pair in it. -/
  | string (value : Option String)
  /-- The items read, and whether the closing bracket followed them. -/
  | array (items : List Document) (closed : Bool)
  /-- The members read, and whether the closing brace followed them. -/
  | object (members : List (Option String × Document)) (closed : Bool)
  /-- A bracket inside 127 others. -/
  | deep (inner : Document)
deriving Repr, Inhabited

namespace Document

/-- The number of brackets that may stand inside each other. -/
def depthLimit : Nat := 127

/-- A bracket that stands inside `depth` others. -/
def nested (depth : Nat) (d : Document) : Document := if depth < depthLimit then d else .deep d

mutual

/-- The value at the start of the tokens, inside `depth` brackets, and the tokens after it;
`none` if the text breaks off inside the value. -/
def value : Nat → Nat → List Token → Document × Option (List Token)
  | 0, _, _ => (.broken, none)
  | fuel + 1, depth, tokens =>
    match tokens with
    | .null :: r => (.null, some r)
    | .bool b :: r => (.bool b, some r)
    | .number n :: r => (.number n, some r)
    | .string s :: r => (.string s, some r)
    | .openBracket :: .closeBracket :: r => (nested depth (.array [] true), some r)
    | .openBracket :: r =>
      let (items, rest) := arrayItems fuel (depth + 1) r
      (nested depth (.array items rest.isSome), rest)
    | .openBrace :: .closeBrace :: r => (nested depth (.object [] true), some r)
    | .openBrace :: r =>
      let (members, rest) := objectMembers fuel (depth + 1) r
      (nested depth (.object members rest.isSome), rest)
    | _ => (.broken, none)

/-- The items of an array up to its closing bracket. -/
def arrayItems : Nat → Nat → List Token → List Document × Option (List Token)
  | 0, _, _ => ([], none)
  | fuel + 1, depth, tokens =>
    match value fuel depth tokens with
    | (v, some (.comma :: r)) =>
      let (vs, rest) := arrayItems fuel depth r
      (v :: vs, rest)
    | (v, some (.closeBracket :: r)) => ([v], some r)
    | (v, _) => ([v], none)

/-- The members of an object up to its closing brace. -/
def objectMembers : Nat → Nat → List Token →
    List (Option String × Document) × Option (List Token)
  | 0, _, _ => ([], none)
  | fuel + 1, depth, tokens =>
    match tokens with
    | .string k :: .colon :: r =>
      match value fuel depth r with
      | (v, some (.comma :: r)) =>
        let (vs, rest) := objectMembers fuel depth r
        ((k, v) :: vs, rest)
      | (v, some (.closeBrace :: r)) => ([(k, v)], some r)
      | (v, _) => ([(k, v)], none)
    | .string k :: _ => ([(k, .broken)], none)
    | _ => ([], none)

end

mutual

/-- The text of the value is JSON, whether or not its numbers and strings have values. -/
def isWellFormed : Document → Bool
  | .broken => false
  | .array items closed => closed && areWellFormed items
  | .object members closed => closed && membersWellFormed members
  | .deep d => isWellFormed d
  | _ => true

/-- Each of the items is well formed. -/
def areWellFormed : List Document → Bool
  | [] => true
  | d :: ds => isWellFormed d && areWellFormed ds

/-- The value of each of the members is well formed. -/
def membersWellFormed : List (Option String × Document) → Bool
  | [] => true
  | (_, d) :: ds => isWellFormed d && membersWellFormed ds

end

mutual

/-- The value a document stands for, the members of its objects sorted by key and the last of
equal keys kept. -/
def toJson? : Document → Option Json
  | .null => some .null
  | .bool b => some (.bool b)
  | .number n => n.map fun n => canonical (.number n)
  | .string s => s.map .string
  | .array items true => (toJsonItems? items).map .array
  | .object members true => (toJsonMembers? [] members).map .object
  | _ => none

/-- The items of an array as values, if each of them is one. -/
def toJsonItems? : List Document → Option (List Json)
  | [] => some []
  | d :: ds => do
    let v ← toJson? d
    let vs ← toJsonItems? ds
    return v :: vs

/-- Members inserted by their keys into those that are already sorted, if each of them is
complete. -/
def toJsonMembers? (sorted : List (String × Json)) :
    List (Option String × Document) → Option (List (String × Json))
  | [] => some sorted
  | (k, d) :: ds => do
    let k ← k
    let v ← toJson? d
    toJsonMembers? (insertMember k v sorted) ds

end

mutual

/-- A value as a document. -/
def ofJson : Json → Document
  | .null => .null
  | .bool b => .bool b
  | .number n => .number (some n)
  | .string s => .string (some s)
  | .array items => .array (ofJsonItems items) true
  | .object members => .object (ofJsonMembers members) true

/-- Items as documents. -/
def ofJsonItems : List Json → List Document
  | [] => []
  | v :: vs => ofJson v :: ofJsonItems vs

/-- Members as those of a document, in their order. -/
def ofJsonMembers : List (String × Json) → List (Option String × Document)
  | [] => []
  | (k, v) :: vs => (some k, ofJson v) :: ofJsonMembers vs

end

/-- What a text says, and whether nothing but blanks follows its value. -/
def ofText (cs : List Char) : Document × Bool :=
  let ts := tokens cs
  match value (ts.length + 1) 0 ts with
  | (d, some []) => (d, true)
  | (d, _) => (d, false)

end Document

/-- The value of a JSON text, if it is well formed. -/
def parse? (s : String) : Option Json :=
  match Document.ofText s.toList with
  | (d, true) => d.toJson?
  | (_, false) => none

end Scenarist.Json
