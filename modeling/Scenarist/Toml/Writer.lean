import Scenarist.Toml.Basic
import Scenarist.Text.Digit

/-!
# Writing TOML

A table is written as its own members, and then its inner tables under headers, an empty line
before each header but the first. An array of tables is written under headers too; any other
array is written on one line if it has at most one item, and on a line for each item otherwise.
A string is written in the plainest form that can hold it.
-/

namespace Scenarist.Toml

/-! ### Strings -/

/-- What decides the form of a string. -/
structure StringTraits where
  /-- The longest run of single quotes. -/
  singleRun : Nat
  /-- The longest run of double quotes. -/
  doubleRun : Nat
  /-- There is a control character other than a tab or a line end. -/
  control : Bool
  backslash : Bool
  newline : Bool

/-- The longest run of a character; `run` is the run at the start. -/
def longestRun (q : Char) (run : Nat) : List Char → Nat
  | [] => run
  | c :: cs => if c = q then longestRun q (run + 1) cs else max run (longestRun q 0 cs)

/-- A control character that has to be escaped. -/
def needsCode (c : Char) : Bool :=
  (c.toNat < 32 && c != '\t' && c != '\n') || c.toNat == 127

/-- The traits of a string. -/
def StringTraits.of (cs : List Char) : StringTraits :=
  ⟨longestRun '\'' 0 cs, longestRun '"' 0 cs, cs.any needsCode, cs.contains '\\', cs.contains '\n'⟩

/-- The escape of a character, if it needs one; in a string over several lines, line ends and
one or two quotes in a row need none. -/
def escapeOf (multiline : Bool) (quotes : Nat) (c : Char) : Option (List Char) :=
  if c = '"' then (if multiline && quotes < 2 then none else some ['\\', '"'])
  else if c = '\\' then some ['\\', '\\']
  else if c = '\t' then some ['\\', 't']
  else if c = '\n' then (if multiline then none else some ['\\', 'n'])
  else if c = '\r' then some ['\\', 'r']
  else if c.toNat = 8 then some ['\\', 'b']
  else if c.toNat = 12 then some ['\\', 'f']
  else if c.toNat < 32 || c.toNat = 127 then some ('\\' :: 'u' :: Text.paddedHex 4 c.toNat)
  else none

/-- The inside of a string with escapes; `quotes` counts the quotes in a row just written. -/
def escapedBody (multiline : Bool) (quotes : Nat) : List Char → List Char
  | [] => []
  | c :: cs =>
    match escapeOf multiline quotes c with
    | some e => e ++ escapedBody multiline 0 cs
    | none => c :: escapedBody multiline (if c = '"' then quotes + 1 else 0) cs

/-- A string on one line with escapes. -/
def basicForm (cs : List Char) : List Char := '"' :: escapedBody false 0 cs ++ ['"']

/-- A string without escapes. -/
def literalForm (cs : List Char) : List Char := '\'' :: cs ++ ['\'']

/-- A string over several lines with escapes. -/
def multilineForm (newline : Bool) (cs : List Char) : List Char :=
  "\"\"\"".toList ++ (if newline then ['\n'] else []) ++ escapedBody true 0 cs ++ "\"\"\"".toList

/-- A string over several lines without escapes. -/
def multilineLiteralForm (newline : Bool) (cs : List Char) : List Char :=
  "'''".toList ++ (if newline then ['\n'] else []) ++ cs ++ "'''".toList

/-- A string in the plainest form that can hold it. -/
def stringForm (s : String) : List Char :=
  let cs := s.toList
  let t := StringTraits.of cs
  if !t.control && !t.backslash && t.doubleRun = 0 && !t.newline then basicForm cs
  else if !t.control && t.singleRun = 0 && !t.newline then literalForm cs
  else if !t.control && !t.backslash && t.doubleRun ≤ 2 then multilineForm t.newline cs
  else if !t.control && t.singleRun ≤ 2 then multilineLiteralForm t.newline cs
  else if t.newline then multilineForm true cs
  else basicForm cs

/-- A key: bare if it can be, and a string on one line otherwise. -/
def keyForm (s : String) : List Char :=
  let cs := s.toList
  let bare (c : Char) : Bool := c.isAlphanum || c == '_' || c == '-'
  let t := StringTraits.of cs
  if !cs.isEmpty && cs.all bare then cs
  else if !t.control && !t.backslash && t.doubleRun = 0 && !t.newline then basicForm cs
  else if !t.control && t.singleRun = 0 && !t.newline then literalForm cs
  else basicForm cs

/-! ### Values -/

/-- A floating-point number: all its digits, with a point. -/
def floatForm (x : Double) : List Char :=
  if x.isUndefined then "nan".toList
  else
    let sign := if x.negative then ['-'] else []
    if x.isInfinite then sign ++ "inf".toList
    else sign ++ Decimal.positional x.shortest ++ (if x.isWhole then ['.', '0'] else [])

mutual

/-- A value after an equals sign, in an array, or in a table on one line. -/
def valueForm : Toml → List Char
  | .string s => stringForm s
  | .integer n => (Decimal.intText n).toList
  | .float x => floatForm x
  | .bool b => (if b then "true" else "false").toList
  | .date text => text.toList
  | .array [] => ['[', ']']
  | .array [v] => '[' :: valueForm v ++ [']']
  | .array items => '[' :: itemLines items ++ ['\n', ']']
  | .table [] => ['\x7b', '\x7d']
  | .table members => '\x7b' :: memberForms true members ++ [' ', '\x7d']

/-- The items of an array, each on a line of its own. -/
def itemLines : List Toml → List Char
  | [] => []
  | v :: rest => "\n    ".toList ++ valueForm v ++ ',' :: itemLines rest

/-- The members of a table on one line. -/
def memberForms (first : Bool) : List (String × Toml) → List Char
  | [] => []
  | (k, v) :: rest =>
    (if first then [] else [',']) ++ ' ' :: keyForm k ++ " = ".toList ++ valueForm v ++
      memberForms false rest

end

/-! ### Tables -/

/-- The value is a table. -/
def isTable : Toml → Bool
  | .table _ => true
  | _ => false

/-- The value is written under headers. -/
def hasHeader : Toml → Bool
  | .table _ => true
  | .array items => !items.isEmpty && items.all isTable
  | _ => false

/-- The lines of the members that are not written under headers. -/
def ownLines : List (String × Toml) → List Char
  | [] => []
  | (k, v) :: rest =>
    (if hasHeader v then [] else keyForm k ++ " = ".toList ++ valueForm v ++ ['\n']) ++
      ownLines rest

/-- The path of a header. -/
def pathForm (path : List String) : List Char := List.intercalate ['.'] (path.map keyForm)

/-- The header of a table, or of an element of an array. -/
def headerLine (element : Bool) (path : List String) : List Char :=
  let (l, r) := if element then (['[', '['], [']', ']']) else (['['], [']'])
  l ++ pathForm path ++ r ++ ['\n']

mutual

/-- The sections of a table and of the tables inside it, in order. A table that holds nothing
but inner tables has no section of its own. -/
def sections (element : Bool) (path : List String) : Toml → List (List Char)
  | .table members =>
    let own := ownLines members
    let here :=
      if element || members.isEmpty || !own.isEmpty then [headerLine element path ++ own] else []
    here ++ memberSections path members
  | .array items => elementSections path items
  | _ => []

/-- The sections of the members of a table. -/
def memberSections (path : List String) : List (String × Toml) → List (List Char)
  | [] => []
  | (k, v) :: rest =>
    (if hasHeader v then sections false (path ++ [k]) v else []) ++ memberSections path rest

/-- The sections of the elements of an array of tables. -/
def elementSections (path : List String) : List Toml → List (List Char)
  | [] => []
  | v :: rest => sections true path v ++ elementSections path rest

end

/-- The text of a table. -/
def render (members : List (String × Toml)) : String :=
  let own := ownLines members
  let parts := (if own.isEmpty then [] else [own]) ++ memberSections [] members
  String.ofList (List.intercalate ['\n'] parts)

end Scenarist.Toml
