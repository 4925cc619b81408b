import Scenarist.Json.Printer
import Scenarist.Yaml.Scalar

/-!
# Writing YAML

A value as a YAML document. The members of an object stand on lines of their own, inner objects
two columns further to the right; the items of an array stand behind dashes, in the column of the
key they belong to. Empty objects and arrays are written with brackets.
-/

namespace Scenarist.Yaml

/-- How doubles are written: positionally from `1e-5` up to below `1e16`. -/
def doubleStyle : Decimal.Style := ⟨-5, 15, false⟩

/-- How numbers of single precision are written: positionally from `1e-6` up to below `1e13`. -/
def singleStyle : Decimal.Style := ⟨-6, 12, false⟩

/-- A floating-point number. -/
def floatText {f : BinaryFormat} (style : Decimal.Style) (x : Binary f) : String :=
  if x.isUndefined then ".nan"
  else if x.isInfinite then (if x.negative then "-.inf" else ".inf")
  else x.render style

/-- A number. -/
def numberText : Json.Number → String
  | .natural n => Decimal.natText n
  | .negative n => "-" ++ Decimal.natText n
  | .float x => floatText doubleStyle x
  | .single x => floatText singleStyle x

/-- Ends the line of a text that has not ended it. -/
def endLine (cs : List Char) : List Char :=
  if cs.getLast?.any isBreak then cs else cs ++ ['\n']

/-- A key that can stand before its colon on one line. -/
def isSimpleKey (k : String) : Bool := k.utf8ByteSize ≤ 128 && !k.toList.any isBreak

/-- What stands before a value. -/
inductive Lead where
  /-- A key with its colon. -/
  | key
  /-- A dash, or another mark of two columns. -/
  | mark

mutual

/-- A value behind its lead, in a collection that stands in column `indent`, up to the end of its
last line. -/
def node (lead : Lead) (indent : Nat) : Json → List Char
  | .null => " null\n".toList
  | .bool b => ' ' :: (Json.boolText b).toList ++ ['\n']
  | .number n => ' ' :: (numberText n).toList ++ ['\n']
  | .string s => ' ' :: endLine (stringText (indent + 2) s.toList)
  | .array [] => " []\n".toList
  | .object [] => " \x7b\x7d\n".toList
  | .array items =>
    match lead with
    | .key => '\n' :: spaces indent ++ itemLines indent true items
    | .mark => ' ' :: itemLines (indent + 2) true items
  | .object members =>
    (match lead with
      | .key => '\n' :: spaces (indent + 2)
      | .mark => [' ']) ++ memberLines (indent + 2) true members

/-- The items of an array in column `indent`; the first one is in its column already. -/
def itemLines (indent : Nat) (first : Bool) : List Json → List Char
  | [] => []
  | v :: rest =>
    (if first then [] else spaces indent) ++ '-' :: node .mark indent v ++
      itemLines indent false rest

/-- The members of an object in column `indent`; the first one is in its column already. -/
def memberLines (indent : Nat) (first : Bool) : List (String × Json) → List Char
  | [] => []
  | (k, v) :: rest =>
    let key := stringText (indent + 2) k.toList
    (if first then [] else spaces indent) ++
      (if isSimpleKey k then key ++ ':' :: node .key indent v
        else '?' :: ' ' :: endLine key ++ spaces indent ++ ':' :: node .mark indent v) ++
      memberLines indent false rest

end

/-- A value as a document. -/
def document : Json → List Char
  | .array [] => "[]\n".toList
  | .object [] => "\x7b\x7d\n".toList
  | .array items => itemLines 0 true items
  | .object members => memberLines 0 true members
  | .string s => endLine (stringText 2 s.toList)
  | v => endLine v.compact

/-- The text of a value as a document. -/
def render (v : Json) : String := String.ofList (document v)

end Scenarist.Yaml
