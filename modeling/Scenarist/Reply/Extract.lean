import Scenarist.Text.Blank

/-!
# Finding the JSON object in a reply

A reply is free text with one JSON object somewhere in it. The object is looked for in the
first fenced block, and in the whole text if that has none. An object is taken to be the
shortest text from the first opening brace on that closes all its braces, those inside string
literals left aside.
-/

namespace Scenarist.Reply

/-- Where a scan for the end of an object stands: how many braces are open, whether the place
is inside a string literal, and whether a backslash precedes it. -/
structure Scan where
  depth : Nat
  inString : Bool
  escaped : Bool
deriving DecidableEq, Repr

/-- The scan before the first character. -/
def Scan.start : Scan := ⟨0, false, false⟩

/-- The scan after one more character. -/
def Scan.step (s : Scan) (c : Char) : Scan :=
  if s.inString then
    if s.escaped then { s with escaped := false }
    else if c = '\\' then { s with escaped := true }
    else if c = '"' then { s with inString := false }
    else s
  else if c = '"' then { s with inString := true }
  else if c = '\x7b' then { s with depth := s.depth + 1 }
  else if c = '\x7d' then { s with depth := s.depth - 1 }
  else s

/-- The character closes the last brace that is open. -/
def Scan.closes (s : Scan) (c : Char) : Bool := !s.inString && c == '\x7d' && s.depth == 1

/-- The text up to the brace that closes the last open one. -/
def balancedFrom (s : Scan) : List Char → Option (List Char)
  | [] => none
  | c :: cs => if s.closes c then some [c] else (balancedFrom (s.step c) cs).map (c :: ·)

/-- The shortest text from the first opening brace on that closes all its braces. -/
def balancedObject? (cs : List Char) : Option (List Char) :=
  balancedFrom .start (cs.dropWhile (· != '\x7b'))

/-- The mark that opens and closes a fenced block. -/
def fence : List Char := "\x60\x60\x60".toList

/-- The text before the first fence and the text after it. -/
def splitFence? : List Char → Option (List Char × List Char)
  | [] => none
  | c :: cs =>
    match fence.isPrefixOf? (c :: cs) with
    | some rest => some ([], rest)
    | none => (splitFence? cs).map fun (before, after) => (c :: before, after)

/-- The text after the first line end, or the whole text if it has none. -/
def afterFirstLine (cs : List Char) : List Char :=
  match cs.dropWhile (· != '\n') with
  | _ :: rest => rest
  | [] => cs

/-- The inside of the first fenced block; the rest of the line of its opening fence is left
out. -/
def fencedBlock? (cs : List Char) : Option (List Char) := do
  let (_, after) ← splitFence? cs
  let (block, _) ← splitFence? (afterFirstLine after)
  return block

/-- The object of a reply. -/
def extract? (reply : List Char) : Option (List Char) :=
  match (fencedBlock? reply).bind balancedObject? with
  | some object => some object
  | none => balancedObject? reply

end Scenarist.Reply
