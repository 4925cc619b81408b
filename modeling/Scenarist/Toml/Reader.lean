import Scenarist.Toml.Scalar
import Scenarist.Toml.Tree

/-!
# Reading TOML

A text is a sequence of lines: a header, a member, or nothing, each with a comment after it if
wanted. Values may nest 79 brackets deep.
-/

namespace Scenarist.Toml

/-- The number of brackets, or of parts of a key, that may stand inside each other. -/
def depthLimit : Nat := 80

/-- The text after blanks inside a line. -/
def dropBlanks (cs : List Char) : List Char := cs.dropWhile isBlank

/-- The text after a comment, if it starts with one; `none` if the comment holds a control
character. -/
def dropComment (cs : List Char) : Option (List Char) :=
  match cs with
  | '#' :: rest =>
    let after := rest.dropWhile fun c => c != '\n' && c != '\r'
    let body := rest.takeWhile fun c => c != '\n' && c != '\r'
    if body.any isControl then none else some after
  | cs => some cs

/-- The text after blanks, a comment, and the end of the line. -/
def endOfLine? (cs : List Char) : Option (List Char) := do
  match ← dropComment (dropBlanks cs) with
  | [] => return []
  | cs => lineEnd? cs

/-- The character may stand in a key without quotes. -/
def isBare (c : Char) : Bool := c.isAlphanum || c == '_' || c == '-'

/-- One part of a key. -/
def keyPart (cs : List Char) : Option (String × List Char) :=
  match cs with
  | '"' :: rest => basicString [] (rest.length + 1) rest
  | '\'' :: rest => literalString [] rest
  | cs =>
    match cs.span isBare with
    | ([], _) => none
    | (name, rest) => some (String.ofList name, rest)

/-- The parts of a key, with points between them. -/
def key : Nat → List Char → Option (List String × List Char)
  | 0, _ => none
  | fuel + 1, cs => do
    let (part, rest) ← keyPart (dropBlanks cs)
    match dropBlanks rest with
    | '.' :: more =>
      let (parts, rest) ← key fuel more
      return (part :: parts, rest)
    | rest => return ([part], rest)

/-- The parts of a key, not too many. -/
def keyPath (cs : List Char) : Option (List String × List Char) := key (depthLimit - 1) cs

/-- The text after line ends, blanks and comments. -/
def dropVoid : Nat → List Char → Option (List Char)
  | 0, _ => none
  | fuel + 1, cs => do
    let cs ← dropComment (dropBlanks cs)
    match lineEnd? cs with
    | some rest => dropVoid fuel rest
    | none => return cs

mutual

/-- A value inside `depth` brackets. -/
def value : Nat → Nat → List Char → Option (Toml × List Char)
  | 0, _, _ => none
  | fuel + 1, depth, cs =>
    match cs with
    | '"' :: _ => (stringValue cs).map fun (s, rest) => (.string s, rest)
    | '\'' :: _ => (stringValue cs).map fun (s, rest) => (.string s, rest)
    | '[' :: rest => if depthLimit ≤ depth + 1 then none else arrayItems fuel (depth + 1) [] rest
    | '\x7b' :: rest =>
      if depthLimit ≤ depth + 1 then none
      else
        match dropBlanks rest with
        | '\x7d' :: rest => some (.table [], rest)
        | rest => tableMembers fuel (depth + 1) [] rest
    | 't' :: 'r' :: 'u' :: 'e' :: rest => some (.bool true, rest)
    | 'f' :: 'a' :: 'l' :: 's' :: 'e' :: rest => some (.bool false, rest)
    | cs =>
      match dateValue cs with
      | some (text, rest) => some (.date text, rest)
      | none => numberValue cs

/-- The items of an array up to its closing bracket; `acc` holds the ones read, backwards. -/
def arrayItems : Nat → Nat → List Toml → List Char → Option (Toml × List Char)
  | 0, _, _, _ => none
  | fuel + 1, depth, acc, cs => do
    match ← dropVoid (cs.length + 1) cs with
    | ']' :: rest => return (.array acc.reverse, rest)
    | cs =>
      let (v, rest) ← value fuel depth cs
      match ← dropVoid (rest.length + 1) rest with
      | ',' :: rest => arrayItems fuel depth (v :: acc) rest
      | ']' :: rest => return (.array (v :: acc).reverse, rest)
      | _ => none

/-- The members of a table on one line up to its closing brace. -/
def tableMembers : Nat → Nat → Members → List Char → Option (Toml × List Char)
  | 0, _, _, _ => none
  | fuel + 1, depth, acc, cs => do
    let (path, rest) ← keyPath cs
    let rest ← after? '=' rest
    let (v, rest) ← value fuel depth (dropBlanks rest)
    let acc ← Node.addDotted v path acc
    match dropBlanks rest with
    | ',' :: rest => tableMembers fuel depth acc rest
    | '\x7d' :: rest => return (.table (Node.finishMembers acc), rest)
    | _ => none

end

/-- Splits the last part off a path. -/
def splitLast : List String → Option (List String × String)
  | [] => none
  | [k] => some ([], k)
  | k :: rest => (splitLast rest).map fun (front, last) => (k :: front, last)

/-- Reads the lines of a text into the tables built so far; `path` is the table that the last
header opened. -/
def readLines (path : List String) (root : Members) : Nat → List Char → Option Members
  | 0, _ => none
  | fuel + 1, cs =>
    match dropBlanks cs with
    | [] => some root
    | '#' :: rest => do
      let rest ← endOfLine? ('#' :: rest)
      readLines path root fuel rest
    | '[' :: '[' :: rest => do
      let (header, rest) ← keyPath rest
      let rest ← after? ']' rest
      let rest ← after? ']' rest
      let rest ← endOfLine? rest
      let (front, last) ← splitLast header
      let root ← Node.within front (Node.openElement last) root
      readLines header root fuel rest
    | '[' :: rest => do
      let (header, rest) ← keyPath rest
      let rest ← after? ']' rest
      let rest ← endOfLine? rest
      let (front, last) ← splitLast header
      let root ← Node.within front (Node.openTable last) root
      readLines header root fuel rest
    | cs =>
      match lineEnd? cs with
      | some rest => readLines path root fuel rest
      | none => do
        let (dotted, rest) ← keyPath cs
        let rest ← after? '=' rest
        let (v, rest) ← value (rest.length + 1) 0 (dropBlanks rest)
        let rest ← endOfLine? rest
        let root ← Node.within path (Node.addDotted v dotted) root
        readLines path root fuel rest

/-- The table that a text stands for, if it is well formed; a mark of byte order before the text
does not count. -/
def parse? (s : String) : Option Toml :=
  let cs := match s.toList with
    | '\uFEFF' :: cs => cs
    | cs => cs
  (readLines [] [] (cs.length + 1) cs).map fun members => .table (Node.finishMembers members)

end Scenarist.Toml
