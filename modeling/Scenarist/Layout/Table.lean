import Scenarist.Text.Width

/-!
# Tables

A table in box-drawing characters. Every column is as wide as its widest line, with a blank on
either side; a cell of several lines makes its row as high as it is.
-/

namespace Scenarist.Layout

/-- A table: the headings of its columns and its rows. -/
structure Table where
  headings : List String
  rows : List (List String)
deriving DecidableEq, Repr

namespace Table

/-- The lines of a text, at least one. -/
def cellLines : List Char → List (List Char)
  | [] => [[]]
  | c :: cs =>
    match cellLines cs with
    | [] => [[c]]
    | l :: ls => if c = '\n' then [] :: l :: ls else (c :: l) :: ls

/-- The width of the widest line of a cell. -/
def cellWidth (lines : List (List Char)) : Nat := (lines.map Text.width).foldl max 0

/-- The greater of two widths, column by column. -/
def widest : List Nat → List Nat → List Nat
  | [], bs => bs
  | as, [] => as
  | a :: as, b :: bs => max a b :: widest as bs

/-- The characters of a horizontal rule: its left end, its line, its crossings and its right
end. -/
structure Rule where
  left : Char
  line : Char
  cross : Char
  right : Char

/-- A rule across columns of the given widths. -/
def rule (r : Rule) (widths : List Nat) : List Char :=
  r.left :: List.intercalate [r.cross] (widths.map fun w => List.replicate (w + 2) r.line) ++
    [r.right]

/-- A line of a cell in a column of the given width. -/
def padded (width : Nat) (line : List Char) : List Char :=
  ' ' :: line ++ List.replicate (width - Text.width line) ' ' ++ [' ']

/-- The `i`-th line of a row. -/
def rowLine (widths : List Nat) (cells : List (List (List Char))) (i : Nat) : List Char :=
  '│' :: List.intercalate ['┆'] ((widths.zip cells).map fun (w, lines) =>
    padded w (lines.getD i [])) ++ ['│']

/-- The lines of a row. -/
def rowLines (widths : List Nat) (cells : List (List (List Char))) : List (List Char) :=
  (List.range ((cells.map List.length).foldl max 0)).map (rowLine widths cells)

/-- The rule above a table. -/
def top : Rule := ⟨'┌', '─', '┬', '┐'⟩

/-- The rule below the headings. -/
def double : Rule := ⟨'╞', '═', '╪', '╡'⟩

/-- The rule between two rows. -/
def dashed : Rule := ⟨'├', '╌', '┼', '┤'⟩

/-- The rule below a table. -/
def bottom : Rule := ⟨'└', '─', '┴', '┘'⟩

/-- The text of a table, without a line end after its last line. -/
def render (t : Table) : String :=
  let cells (row : List String) := row.map fun s => cellLines s.toList
  let headings := cells t.headings
  let rows := t.rows.map cells
  let widths := (rows.map (·.map cellWidth)).foldl widest (headings.map cellWidth)
  let body := (rows.map (rowLines widths)).intersperse [rule dashed widths]
  let lines := rule top widths :: rowLines widths headings ++ rule double widths :: body.flatten ++
    [rule bottom widths]
  String.ofList (List.intercalate ['\n'] lines)

end Table

end Scenarist.Layout
