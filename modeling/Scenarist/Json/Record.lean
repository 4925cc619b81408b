import Scenarist.Json.Document
import Scenarist.Text.Escaped

/-!
# Reading documents into typed values

A typed value is read from a document along its **shape**: a text, a flag, a number in a
range, a sequence, a record, or one of several names. A record is an object with the fields
of the record, each at most once, or an array of its fields in order. What does not fit is
reported as an `Issue`, the first one in the order of the document; a document that is broken
before that is `malformed`.
-/

namespace Scenarist.Json

/-- What a document has in a place where something else is wanted. -/
inductive Found where
  | null
  | flag (b : Bool)
  | whole (n : Int)
  | float (x : Double)
  | text (s : String)
  | sequence
  | map
deriving DecidableEq, Repr

/-- A fault in the shape of a document. -/
inductive Issue where
  | wrongType (found : Found) (expected : String)
  | wrongValue (found : Found) (expected : String)
  | wrongLength (length : Nat) (expected : String)
  | unknownVariant (name : String) (known : List String)
  | missingField (name : String)
  | duplicateField (name : String)
  | notATime (reason : String)
deriving DecidableEq, Repr

/-- Why a document could not be read. -/
inductive Flaw where
  | malformed
  | mismatch (issue : Issue)
deriving DecidableEq, Repr

/-- The text of a floating-point number: its digits in place, with a point. -/
def pointedText (x : Double) : String :=
  let s := x.positional
  if s.toList.contains '.' then s else s ++ ".0"

/-- What was found, in words. -/
def Found.describe : Found → String
  | .null => "null"
  | .flag b => "boolean `" ++ (if b then "true" else "false") ++ "`"
  | .whole n => "integer `" ++ Decimal.intText n ++ "`"
  | .float x => "floating point `" ++ pointedText x ++ "`"
  | .text s => "string " ++ Text.escaped s
  | .sequence => "sequence"
  | .map => "map"

/-- A list of names in words: one, a pair joined by "or", or "one of" several. -/
def oneOf (names : List String) : String :=
  let quoted := names.map fun n => "`" ++ n ++ "`"
  match quoted with
  | [] => "there are no variants"
  | [a] => "expected " ++ a
  | [a, b] => "expected " ++ a ++ " or " ++ b
  | _ => "expected one of " ++ ", ".intercalate quoted

/-- The wording of an issue. -/
def Issue.message : Issue → String
  | .wrongType found expected => "invalid type: " ++ found.describe ++ ", expected " ++ expected
  | .wrongValue found expected => "invalid value: " ++ found.describe ++ ", expected " ++ expected
  | .wrongLength length expected =>
    "invalid length " ++ Decimal.natText length ++ ", expected " ++ expected
  | .unknownVariant name known => "unknown variant `" ++ name ++ "`, " ++ oneOf known
  | .missingField name => "missing field `" ++ name ++ "`"
  | .duplicateField name => "duplicate field `" ++ name ++ "`"
  | .notATime reason => reason

/-- Where a document comes from, which decides what may follow the fields of a record that is
given as an array, and how a name may be written. -/
inductive Medium where
  /-- Straight from a text. -/
  | text
  /-- From a value. -/
  | tree
  /-- From a value set aside until its tag was known. -/
  | buffer
  /-- From TOML. -/
  | toml
deriving DecidableEq, Repr

/-- The result of reading a document. -/
abbrev Reading := Except Flaw

/-- Fails with an issue. -/
def issue {α : Type} (i : Issue) : Reading α := .error (.mismatch i)

/-- What a number is found to be. -/
def Number.found : Number → Found
  | .natural n => .whole n
  | .negative n => .whole (-(n : Int))
  | .float x => .float x
  | .single x => .float x.convert

namespace Document

/-- Fails because `d` is not what is expected there. -/
def unexpected {α : Type} (expected : String) (d : Document) : Reading α :=
  match d with
  | .broken => .error .malformed
  | .null => issue (.wrongType .null expected)
  | .bool b => issue (.wrongType (.flag b) expected)
  | .number none => .error .malformed
  | .number (some n) => issue (.wrongType n.found expected)
  | .string none => .error .malformed
  | .string (some s) => issue (.wrongType (.text s) expected)
  | .array _ _ => issue (.wrongType .sequence expected)
  | .object _ _ => issue (.wrongType .map expected)
  | .deep (.array _ _) => issue (.wrongType .sequence expected)
  | .deep _ => issue (.wrongType .map expected)

/-- A text. -/
def asText (d : Document) : Reading String :=
  match d with
  | .string (some s) => .ok s
  | d => unexpected "a string" d

/-- A flag. -/
def asBool (d : Document) : Reading Bool :=
  match d with
  | .bool b => .ok b
  | d => unexpected "a boolean" d

/-- A natural number below `2 ^ 64`, in a type of the given name. -/
def asNat (kind : String) (d : Document) : Reading Nat :=
  match d with
  | .number (some (.natural n)) => .ok n
  | .number (some (.negative n)) => issue (.wrongValue (.whole (-(n : Int))) kind)
  | d => unexpected kind d

/-- An integer of 64 bits with a sign. -/
def asInt (d : Document) : Reading Int :=
  match d with
  | .number (some (.natural n)) =>
    if n < Nat.pow 2 63 then .ok n else issue (.wrongValue (.whole n) "i64")
  | .number (some (.negative n)) => .ok (-(n : Int))
  | d => unexpected "i64" d

/-- A number rounded to single precision. -/
def asSingle (d : Document) : Reading Single :=
  match d with
  | .number (some (.natural n)) => .ok (.ofNat n)
  | .number (some (.negative n)) => .ok ⟨true, (Binary.ofNat n : Single).magnitude⟩
  | .number (some (.float x)) => .ok x.convert
  | d => unexpected "f32" d

/-- Any value at all. -/
def asJson (d : Document) : Reading Json :=
  match d.toJson? with
  | some v => .ok v
  | none => .error .malformed

/-- An absent value is `null`. -/
def asOption {α : Type} (read : Document → Reading α) (d : Document) : Reading (Option α) :=
  match d with
  | .null => .ok none
  | d => (read d).map some

/-- The items of a sequence, each read by `read`. -/
def readItems {α : Type} (read : Document → Reading α) : List Document → Reading (List α)
  | [] => .ok []
  | d :: ds => do
    let v ← read d
    let vs ← readItems read ds
    return v :: vs

/-- A sequence. -/
def asList {α : Type} (read : Document → Reading α) (d : Document) : Reading (List α) :=
  match d with
  | .array items closed => do
    let vs ← readItems read items
    if closed then return vs else .error .malformed
  | .deep (.array _ _) => .error .malformed
  | d => unexpected "a sequence" d

/-- One of several names, each with its value. A name may also be the key of an object whose
only member is `null`, or empty in TOML. -/
def asName {α : Type} (m : Medium) (names : List (String × α)) (d : Document) : Reading α :=
  let find (s : String) : Reading α :=
    match names.lookup s with
    | some v => .ok v
    | none => issue (.unknownVariant s (names.map Prod.fst))
  let onlyNull (v : Document) : Reading Unit :=
    match m, v with
    | .toml, .array [] _ => .ok ()
    | .toml, .object [] _ => .ok ()
    | _, .null => .ok ()
    | _, v => unexpected "unit" v
  match d, m with
  | .string (some s), _ => find s
  | .object [(some k, v)] closed, .text => do
    let a ← find k
    onlyNull v
    if closed then return a else .error .malformed
  | .object ((some k, v) :: _) _, .text => do
    let _ ← find k
    onlyNull v
    .error .malformed
  | _, .text => .error .malformed
  | .object [(some k, v)] _, _ => do
    let a ← find k
    onlyNull v
    return a
  | .object _ _, _ => issue (.wrongValue .map "map with a single key")
  | d, _ => unexpected "string or map" d

end Document

/-! ### Records -/

/-- Whether a field of a record may be left out. -/
inductive Presence where
  /-- The field must be there. -/
  | required
  /-- The field may be missing from an object, but not from an array. -/
  | omissible
  /-- The field may be missing anywhere. -/
  | optional
deriving DecidableEq, Repr

/-- A field of a record of type `α`: its names, the first of which is its own, and how it is
read into the record. -/
structure Field (α : Type) where
  names : List String
  presence : Presence
  read : Document → α → Reading α

/-- The name of a field. -/
def Field.name {α : Type} (f : Field α) : String := f.names.headD ""

/-- A record type: its name, its fields in order, and the values of the fields left out. -/
structure RecordShape (α : Type) where
  name : String
  fields : List (Field α)
  blank : α

namespace RecordShape

variable {α : Type}

/-- "1 element", or a number of elements. -/
def elements (n : Nat) : String := if n = 1 then "1 element" else Decimal.natText n ++ " elements"

/-- The field with the given key, and its index. -/
def find? (key : String) : Nat → List (Field α) → Option (Nat × Field α)
  | _, [] => none
  | i, f :: fs => if f.names.contains key then some (i, f) else find? key (i + 1) fs

/-- Reads members in order; `seen` holds the indices of the fields that have been read. -/
def readMembers (r : RecordShape α) (seen : List Nat) (acc : α) :
    List (Option String × Document) → Reading (List Nat × α)
  | [] => .ok (seen, acc)
  | (none, _) :: _ => .error .malformed
  | (some k, d) :: rest =>
    match find? k 0 r.fields with
    | none => if d.isWellFormed then readMembers r seen acc rest else .error .malformed
    | some (i, f) =>
      if seen.contains i then issue (.duplicateField f.name)
      else
        match f.read d acc with
        | .error e => .error e
        | .ok acc => readMembers r (i :: seen) acc rest

/-- The first field that is required and was not read. -/
def missing? (seen : List Nat) : Nat → List (Field α) → Option String
  | _, [] => none
  | i, f :: fs =>
    if f.presence = .required && !seen.contains i then some f.name else missing? seen (i + 1) fs

/-- Reads items as the fields in order. -/
def readInOrder (r : RecordShape α) (acc : α) :
    Nat → List (Field α) → List Document → Bool → Reading (α × List Document)
  | _, [], ds, _ => .ok (acc, ds)
  | i, f :: fs, [], closed =>
    if !closed then .error .malformed
    else if f.presence = .optional then readInOrder r acc (i + 1) fs [] closed
    else issue (.wrongLength i ("struct " ++ r.name ++ " with " ++ elements r.fields.length))
  | i, f :: fs, d :: ds, closed =>
    match f.read d acc with
    | .error e => .error e
    | .ok acc => readInOrder r acc (i + 1) fs ds closed

/-- Reads a record from an object or from an array of its fields. -/
def read (r : RecordShape α) (m : Medium) (d : Document) : Reading α :=
  match d with
  | .object members closed => do
    let (seen, acc) ← readMembers r [] r.blank members
    if !closed then .error .malformed
    else
      match missing? seen 0 r.fields with
      | some name => issue (.missingField name)
      | none => return acc
  | .array items closed => do
    let (acc, rest) ← readInOrder r r.blank 0 r.fields items closed
    match m, rest with
    | .text, _ => if rest.isEmpty && closed then return acc else .error .malformed
    | _, [] => return acc
    | .toml, _ => return acc
    | .tree, _ => issue (.wrongLength items.length "fewer elements in array")
    | .buffer, _ => issue (.wrongLength items.length (elements r.fields.length ++ " in sequence"))
  | .deep _ => .error .malformed
  | d => Document.unexpected ("struct " ++ r.name) d

end RecordShape

/-- Reads a whole text by `read`. -/
def readText {α : Type} (read : Document → Reading α) (s : String) : Reading α :=
  let (d, whole) := Document.ofText s.toList
  match read d with
  | .error e => .error e
  | .ok v => if whole then .ok v else .error .malformed

end Scenarist.Json
