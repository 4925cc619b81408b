import Scenarist.Json.Basic

/-!
# Writing JSON

The compact form of a value, and the indented form with one member or item a line. A string
is written between double quotes; quotes, backslashes and control characters are escaped, and
every other character stands for itself.
-/

namespace Scenarist.Json

/-- The hexadecimal digit of a number below 16, in lower case. -/
def hexDigit (n : Nat) : Char := Char.ofNat (if n < 10 then 48 + n else 87 + n)

/-- One character as it is written inside a string. -/
def escapeChar (c : Char) : List Char :=
  if c = '"' then ['\\', '"']
  else if c = '\\' then ['\\', '\\']
  else if c = '\n' then ['\\', 'n']
  else if c = '\r' then ['\\', 'r']
  else if c = '\t' then ['\\', 't']
  else if c.toNat = 8 then ['\\', 'b']
  else if c.toNat = 12 then ['\\', 'f']
  else if c.toNat < 32 then ['\\', 'u', '0', '0', hexDigit (c.toNat / 16), hexDigit (c.toNat % 16)]
  else [c]

/-- The characters of a string literal after its opening quote. -/
def literalBody (cs : List Char) : List Char := cs.flatMap escapeChar ++ ['"']

/-- A string literal. -/
def literal (s : String) : List Char := '"' :: literalBody s.toList

/-- The text of `true` or `false`. -/
def boolText (b : Bool) : String := if b then "true" else "false"

mutual

/-- The value without any blank space. -/
def compact : Json → List Char
  | .null => "null".toList
  | .bool b => (boolText b).toList
  | .number n => n.text.toList
  | .string s => literal s
  | .array items => '[' :: compactItems true items ++ [']']
  | .object members => '\x7b' :: compactMembers true members ++ ['\x7d']

/-- Items with commas between them; `first` says that none precedes. -/
def compactItems (first : Bool) : List Json → List Char
  | [] => []
  | v :: rest => (if first then [] else [',']) ++ compact v ++ compactItems false rest

/-- Members with commas between them; `first` says that none precedes. -/
def compactMembers (first : Bool) : List (String × Json) → List Char
  | [] => []
  | (k, v) :: rest =>
    (if first then [] else [',']) ++ literal k ++ ':' :: compact v ++ compactMembers false rest

end

/-- A new line indented by `depth` levels of two spaces. -/
def newLine (depth : Nat) : List Char := '\n' :: List.replicate (2 * depth) ' '

mutual

/-- The value with every item and member on a line of its own, inside `depth` brackets. -/
def indented (depth : Nat) : Json → List Char
  | .null => "null".toList
  | .bool b => (boolText b).toList
  | .number n => n.text.toList
  | .string s => literal s
  | .array [] => ['[', ']']
  | .array items => '[' :: indentedItems (depth + 1) true items ++ newLine depth ++ [']']
  | .object [] => ['\x7b', '\x7d']
  | .object members =>
    '\x7b' :: indentedMembers (depth + 1) true members ++ newLine depth ++ ['\x7d']

/-- Items on lines of their own. -/
def indentedItems (depth : Nat) (first : Bool) : List Json → List Char
  | [] => []
  | v :: rest =>
    (if first then [] else [',']) ++ newLine depth ++ indented depth v ++
      indentedItems depth false rest

/-- Members on lines of their own. -/
def indentedMembers (depth : Nat) (first : Bool) : List (String × Json) → List Char
  | [] => []
  | (k, v) :: rest =>
    (if first then [] else [',']) ++ newLine depth ++ literal k ++ ':' :: ' ' :: indented depth v ++
      indentedMembers depth false rest

end

/-- The compact text of a value. -/
def text (v : Json) : String := String.ofList v.compact

/-- The indented text of a value, without a final newline. -/
def pretty (v : Json) : String := String.ofList (v.indented 0)

end Scenarist.Json
