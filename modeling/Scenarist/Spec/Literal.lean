import Scenarist.Text.Blank

/-!
# Literals and comments of a spec file

The ways in which free text enters a spec file: as a string literal between single quotes, or
as the text of a comment on one line. In a literal the quote, the backslash and the line ends are
escaped, so that nothing in a text ends the literal.
-/

namespace Scenarist.Spec

/-- One character inside a literal. -/
def escapeChar (c : Char) : List Char :=
  if c = '\\' then ['\\', '\\']
  else if c = '\'' then ['\\', '\'']
  else if c = '\n' then ['\\', 'n']
  else if c = '\r' then ['\\', 'r']
  else [c]

/-- The characters of a literal after its opening quote. -/
def literalBody (cs : List Char) : List Char := cs.flatMap escapeChar ++ ['\'']

/-- A string literal between single quotes. -/
def quote (cs : List Char) : List Char := '\'' :: literalBody cs

/-- The text on one line, for a comment. -/
def commentText (s : String) : String := onOneLine s

end Scenarist.Spec
