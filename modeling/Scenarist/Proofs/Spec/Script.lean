import Scenarist.Spec.Literal

/-!
# Reading a Script

How a script is taken apart before any of it is understood. Every character belongs to a
literal, to a comment or to the **code** (`mark`), and outside literals a script is cut into
lines at four line ends (`scriptLines`). A literal between single or double quotes does not go
past a line feed or a carriage return, but may hold the two Unicode separators.

The reading is that of a script without regular expressions and without expressions inside
templates: a slash that opens no comment is code, and a template goes on to its closing backtick.

A line that was written as a sequence of pieces (`Piece`) is read as these pieces if it is
`Tidy`: code holds nothing that opens a literal or a comment, a comment ends its line and has no
line end in it. Nothing is asked of the text of a literal, which is quoted.

## Main results

* `mark_quote`: **a quoted text is read as one literal**, whatever the text.
* `mark_tidy`: a tidy line is read as the pieces it was written from.
* `cutLines_written`: a script of tidy lines is cut into exactly these lines.
* `endsLine_of_mem_cutLines`: no line of a script has a line end in it outside literals.
-/

namespace Scenarist.Spec

/-! ### Regions -/

/-- What a character of a script belongs to. -/
inductive Region where
  | code
  | literal
  | comment
deriving DecidableEq, Repr

/-- A character of a script and what it belongs to. -/
abbrev Mark := Char × Region

/-- Where the reading of a script is. -/
inductive Mode where
  | code
  /-- In a literal that ends with the quote. -/
  | literal (quote : Char)
  /-- In a literal, after a backslash. -/
  | escaped (quote : Char)
  /-- In a comment that ends with its line. -/
  | line
  /-- Before the second character of a comment that ends with a mark of its own. -/
  | opening
  /-- In such a comment. -/
  | block
  /-- Before its last character. -/
  | closing
deriving DecidableEq, Repr

/-- The character ends a line. -/
def isLineEnd (c : Char) : Bool :=
  c == '\n' || c == '\r' || c == '\u2028' || c == '\u2029'

/-- The character opens a literal. The last one is the backtick of a template. -/
def opensLiteral (c : Char) : Bool := c == '\'' || c == '"' || c == '\x60'

/-- Reads one character, the one after it being in sight. -/
def Mode.step (m : Mode) (c : Char) (next : Option Char) : Region × Mode :=
  match m with
  | .code =>
    if opensLiteral c then (.literal, .literal c)
    else if c = '/' && next = some '/' then (.comment, .line)
    else if c = '/' && next = some '*' then (.comment, .opening)
    else (.code, .code)
  | .literal q =>
    if c = q then (.literal, .code)
    else if c = '\\' then (.literal, .escaped q)
    else if (c = '\n' || c = '\r') && q ≠ '\x60' then (.code, .code)
    else (.literal, .literal q)
  | .escaped q =>
    if c = '\r' && next = some '\n' then (.literal, .escaped q) else (.literal, .literal q)
  | .line => if isLineEnd c then (.code, .code) else (.comment, .line)
  | .opening => (.comment, .block)
  | .block => if c = '*' && next = some '/' then (.comment, .closing) else (.comment, .block)
  | .closing => (.comment, .code)

/-- What each character of a script belongs to. -/
def mark (m : Mode) : List Char → List Mark
  | [] => []
  | c :: cs => (c, (m.step c cs.head?).1) :: mark (m.step c cs.head?).2 cs

/-! ### Lines -/

/-- The character ends a line of its script. -/
def endsLine (x : Mark) : Bool := isLineEnd x.1 && x.2 != .literal

/-- Cuts a script into lines. A line end at the end of the script begins no further line. -/
def cutLines : List Mark → List (List Mark)
  | [] => []
  | x :: xs =>
    if endsLine x then [] :: cutLines xs
    else
      match cutLines xs with
      | [] => [[x]]
      | l :: ls => (x :: l) :: ls

/-- The lines of a script. -/
def scriptLines (script : String) : List (List Mark) := cutLines (mark .code script.toList)

/-- **No line of a script has a line end in it**, outside literals. -/
theorem endsLine_of_mem_cutLines {xs l : List Mark} (h : l ∈ cutLines xs) :
    ∀ x ∈ l, endsLine x = false := by
  induction xs generalizing l with
  | nil => simp [cutLines] at h
  | cons y ys ih =>
      rw [cutLines] at h
      split at h
      · rcases List.mem_cons.1 h with rfl | h
        · simp
        · exact ih h
      · next hy =>
        have hy' : endsLine y = false := by simpa using hy
        split at h
        · obtain rfl : l = [y] := List.mem_singleton.1 h
          simpa using hy'
        · next first rest hcut =>
          rcases List.mem_cons.1 h with rfl | h
          · intro x hx
            rcases List.mem_cons.1 hx with rfl | hx
            · exact hy'
            · exact ih (hcut ▸ List.mem_cons_self) x hx
          · exact ih (hcut ▸ List.mem_cons_of_mem first h)

/-- What stands before the first line end is the first line. -/
theorem cutLines_append {xs rest : List Mark} {e : Mark} (hxs : ∀ x ∈ xs, endsLine x = false)
    (he : endsLine e = true) : cutLines (xs ++ e :: rest) = xs :: cutLines rest := by
  induction xs with
  | nil => rw [List.nil_append, cutLines, if_pos he]
  | cons x xs ih =>
      have hx : ¬ endsLine x = true := by simpa using hxs x List.mem_cons_self
      rw [List.cons_append, cutLines, if_neg hx,
        ih fun y hy => hxs y (List.mem_cons_of_mem x hy)]

/-! ### Pieces -/

/-- A part of a line as it is written. -/
inductive Piece where
  | code (text : List Char)
  /-- A text between quotes. -/
  | literal (text : List Char)
  /-- A text after two slashes. -/
  | comment (text : List Char)
deriving DecidableEq, Repr

namespace Piece

/-- The characters of a piece. -/
def written : Piece → List Char
  | code text => text
  | literal text => quote text
  | comment text => '/' :: '/' :: text

/-- What the characters of a piece belong to. -/
def region : Piece → Region
  | code _ => .code
  | literal _ => .literal
  | comment _ => .comment

/-- The characters of a piece, each with what it belongs to. -/
def marks (p : Piece) : List Mark := p.written.map fun c => (c, p.region)

end Piece

/-- The character opens no literal and no comment, and ends no line. -/
def isPlain (c : Char) : Bool := !opensLiteral c && c != '/' && !isLineEnd c

/-- The line is read as the pieces it is written from: its code is plain, and a comment is its
last piece and has no line end in it. -/
def Tidy : List Piece → Prop
  | [] => True
  | .code text :: rest => text.all isPlain = true ∧ Tidy rest
  | .literal _ :: rest => Tidy rest
  | .comment text :: rest => text.any isLineEnd = false ∧ rest = []

/-- The piece can stand anywhere in a line. -/
def Piece.isInline : Piece → Bool
  | .code text => text.all isPlain
  | .literal _ => true
  | .comment _ => false

/-- A line without comments is tidy if its code is plain. -/
theorem tidy_of_inline {ps : List Piece} (h : ps.all Piece.isInline = true) : Tidy ps := by
  induction ps with
  | nil => trivial
  | cons p ps ih =>
      rw [List.all_cons, Bool.and_eq_true] at h
      cases p with
      | code text => exact ⟨h.1, ih h.2⟩
      | literal text => exact ih h.2
      | comment text => exact absurd h.1 Bool.false_ne_true

/-- The characters of a line. -/
def writtenLine (ps : List Piece) : List Char := ps.flatMap Piece.written

/-- The characters of a line, each with what it belongs to. -/
def markedLine (ps : List Piece) : List Mark := ps.flatMap Piece.marks

/-! ### Reading pieces -/

theorem mark_code {cs : List Char} (h : cs.all isPlain = true) (rest : List Char) :
    mark .code (cs ++ rest) = cs.map (·, .code) ++ mark .code rest := by
  induction cs with
  | nil => rfl
  | cons c cs ih =>
      rw [List.all_cons, Bool.and_eq_true] at h
      obtain ⟨hc, hcs⟩ := h
      have hstep : ∀ next, Mode.step .code c next = (.code, .code) := by
        intro next
        simp only [isPlain, Bool.and_eq_true, Bool.not_eq_true', bne_iff_ne] at hc
        simp [Mode.step, hc.1.1, hc.1.2]
      rw [List.cons_append, mark, hstep, ih hcs]
      rfl

/-- One character inside a literal does not end it. -/
theorem mark_escapeChar (c : Char) (rest : List Char) :
    mark (.literal '\'') (escapeChar c ++ rest) =
      (escapeChar c).map (·, .literal) ++ mark (.literal '\'') rest := by
  rw [escapeChar]
  split
  · rfl
  · split
    · rfl
    · split
      · rfl
      · split
        · rfl
        · next hslash hquote hfeed hreturn =>
          have hstep : Mode.step (.literal '\'') c rest.head? = (.literal, .literal '\'') := by
            simp [Mode.step, hslash, hquote, hfeed, hreturn]
          rw [List.singleton_append, mark, hstep]
          rfl

/-- **A quoted text is read as one literal**, whatever the text. -/
theorem mark_quote (cs rest : List Char) :
    mark .code (quote cs ++ rest) = (quote cs).map (·, .literal) ++ mark .code rest := by
  have hbody : mark (.literal '\'') (literalBody cs ++ rest) =
      (literalBody cs).map (·, .literal) ++ mark .code rest := by
    rw [literalBody]
    induction cs with
    | nil => rfl
    | cons c cs ih =>
        rw [List.flatMap_cons, List.append_assoc, List.append_assoc, mark_escapeChar,
          ← List.append_assoc, ih, ← List.append_assoc, ← List.map_append, List.append_assoc]
  change ('\'', Region.literal) :: mark (.literal '\'') (literalBody cs ++ rest) = _
  rw [hbody]
  rfl

/-- A comment without a line end in it goes up to the next one. -/
theorem mark_comment {cs : List Char} (h : cs.any isLineEnd = false) (rest : List Char) :
    mark .code ('/' :: '/' :: cs ++ '\n' :: rest) =
      ('/' :: '/' :: cs).map (·, .comment) ++ ('\n', .code) :: mark .code rest := by
  have hline : mark .line (cs ++ '\n' :: rest) =
      cs.map (·, .comment) ++ ('\n', .code) :: mark .code rest := by
    induction cs with
    | nil => rfl
    | cons c cs ih =>
        rw [List.any_cons, Bool.or_eq_false_iff] at h
        rw [List.cons_append, mark]
        simp only [Mode.step, h.1, Bool.false_eq_true, if_false]
        rw [ih h.2]
        rfl
  change ('/', Region.comment) :: ('/', Region.comment) :: mark .line (cs ++ '\n' :: rest) = _
  rw [hline]
  rfl

/-- **A tidy line is read as the pieces it was written from.** -/
theorem mark_tidy {ps : List Piece} (h : Tidy ps) (rest : List Char) :
    mark .code (writtenLine ps ++ '\n' :: rest) =
      markedLine ps ++ ('\n', .code) :: mark .code rest := by
  induction ps with
  | nil => rfl
  | cons p ps ih =>
      cases p with
      | code text =>
          change mark .code (text ++ writtenLine ps ++ '\n' :: rest) = _
          rw [List.append_assoc, mark_code h.1, ih h.2, ← List.append_assoc]
          rfl
      | literal text =>
          change mark .code (quote text ++ writtenLine ps ++ '\n' :: rest) = _
          rw [List.append_assoc, mark_quote, ih h, ← List.append_assoc]
          rfl
      | comment text =>
          obtain ⟨htext, rfl⟩ := h
          change mark .code ('/' :: '/' :: text ++ [] ++ '\n' :: rest) = _
          rw [List.append_nil, mark_comment htext]
          simp [markedLine, Piece.marks, Piece.written, Piece.region]

/-- A tidy line has no line end in it, outside literals. -/
theorem endsLine_of_mem_markedLine {ps : List Piece} (h : Tidy ps) :
    ∀ x ∈ markedLine ps, endsLine x = false := by
  induction ps with
  | nil => simp [markedLine]
  | cons p ps ih =>
      intro x hx
      rw [markedLine, List.flatMap_cons, List.mem_append] at hx
      rcases hx with hx | hx
      · obtain ⟨c, hc, rfl⟩ := List.mem_map.1 hx
        cases p with
        | code text =>
            have hplain := List.all_eq_true.1 h.1 c hc
            simp only [isPlain, Bool.and_eq_true, Bool.not_eq_true'] at hplain
            simp [endsLine, hplain.2]
        | literal text => simp [endsLine, Piece.region]
        | comment text =>
            have hend : isLineEnd c = false := by
              rcases List.mem_cons.1 hc with rfl | hc
              · decide
              · rcases List.mem_cons.1 hc with rfl | hc
                · decide
                · simpa using List.any_eq_false.1 h.1 c hc
            simp [endsLine, hend]
      · cases p with
        | code text => exact ih h.2 x hx
        | literal text => exact ih h x hx
        | comment text =>
            obtain ⟨-, rfl⟩ := h
            simp at hx

/-- **A script of tidy lines is cut into exactly these lines.** -/
theorem cutLines_written {lines : List (List Piece)} (h : ∀ ps ∈ lines, Tidy ps) :
    cutLines (mark .code (lines.flatMap fun ps => writtenLine ps ++ ['\n'])) =
      lines.map markedLine := by
  induction lines with
  | nil => rfl
  | cons ps lines ih =>
      have hps : Tidy ps := h ps List.mem_cons_self
      rw [List.flatMap_cons, List.append_assoc, List.singleton_append, mark_tidy hps,
        cutLines_append (endsLine_of_mem_markedLine hps) rfl,
        ih fun qs hqs => h qs (List.mem_cons_of_mem ps hqs), List.map_cons]

end Scenarist.Spec
