import Scenarist.Proofs.Spec.Containment

/-!
# The Tokens of a Script

The words of a script as a language engine reads them: names, string literals between single
quotes with the value that they stand for, and signs. Blanks and comments up to the end of a line
stand between tokens and are not among them.

The scanner reads one character at a time (`Scan.step`) and refuses whatever it does not know:
numbers, other literals, other comments, and escapes by a number. In a literal a backslash makes
the next character an escape, with the meanings that the language gives to them; only a line feed
and a carriage return may not stand in a literal as they are.

A text **scans as** tokens (`Scans`) if the scanner reads them from it and is between two tokens
again at its end, so that texts can be put one after another.

## Main results

* `Scans.append`: texts one after another scan as their tokens one after another.
* `scans_quote`: **a quoted text scans as one literal with the text as its value**, whatever the
  text.
* `scans_identifier`: an identifier before a parenthesis scans as one name.
* `scans_comment`: a comment without a line end in it scans as nothing.
-/

namespace Scenarist.Spec

/-- A word of a script. -/
inductive Token where
  | name (text : List Char)
  /-- A string literal with its value. -/
  | literal (value : List Char)
  | sign (c : Char)
  /-- The arrow of a function. -/
  | arrow
deriving DecidableEq, Repr

/-- Where the scanner is. What has been read of a token is kept backwards. -/
inductive Scan where
  | between
  | name (read : List Char)
  | literal (read : List Char)
  /-- In a literal, after a backslash. -/
  | escape (read : List Char)
  | slash
  | comment
  | equals
  /-- The scanner has refused to read. -/
  | refused
deriving DecidableEq, Repr

/-- A name begins with the character. -/
def startsName (c : Char) : Bool := c.isAlpha || c == '_' || c == '$'

/-- The character stands in a name. -/
def continuesName (c : Char) : Bool := startsName c || c.isDigit

/-- The character is a token of its own. -/
def isSign (c : Char) : Bool := "(){}[],.;:".toList.contains c

/-- What the character after a backslash stands for. Digits, `x` and `u` begin an escape by a
number, and a line end is left out by the language; these are refused. -/
def escaped? (c : Char) : Option Char :=
  if c = 'n' then some '\n'
  else if c = 'r' then some '\r'
  else if c = 't' then some '\t'
  else if c = 'b' then some '\x08'
  else if c = 'v' then some '\x0b'
  else if c = 'f' then some '\x0c'
  else if c.isDigit || c = 'x' || c = 'u' || isLineEnd c then none
  else some c

namespace Scan

/-- Reads a character between two tokens. -/
def opening (c : Char) : List Token × Scan :=
  if startsName c then ([], .name [c])
  else if c = ' ' || c = '\t' || isLineEnd c then ([], .between)
  else if c = '\'' then ([], .literal [])
  else if c = '/' then ([], .slash)
  else if c = '=' then ([], .equals)
  else if isSign c then ([.sign c], .between)
  else ([], .refused)

/-- Reads one character. -/
def step (m : Scan) (c : Char) : List Token × Scan :=
  match m with
  | .between => opening c
  | .name read =>
    if continuesName c then ([], .name (c :: read))
    else (.name read.reverse :: (opening c).1, (opening c).2)
  | .literal read =>
    if c = '\'' then ([.literal read.reverse], .between)
    else if c = '\\' then ([], .escape read)
    else if c = '\n' || c = '\r' then ([], .refused)
    else ([], .literal (c :: read))
  | .escape read =>
    match escaped? c with
    | some meant => ([], .literal (meant :: read))
    | none => ([], .refused)
  | .slash => if c = '/' then ([], .comment) else ([], .refused)
  | .comment => if isLineEnd c then ([], .between) else ([], .comment)
  | .equals => if c = '>' then ([.arrow], .between) else ([], .refused)
  | .refused => ([], .refused)

/-- Reads a text. -/
def run (m : Scan) : List Char → List Token × Scan
  | [] => ([], m)
  | c :: cs => ((m.step c).1 ++ (run (m.step c).2 cs).1, (run (m.step c).2 cs).2)

/-- A text is scanned part by part, the state being handed on. -/
theorem run_append (m : Scan) (xs ys : List Char) :
    m.run (xs ++ ys) = ((m.run xs).1 ++ ((m.run xs).2.run ys).1, ((m.run xs).2.run ys).2) := by
  induction xs generalizing m with
  | nil => rfl
  | cons x xs ih => rw [List.cons_append, run, run, ih, List.append_assoc]

end Scan

/-- The tokens of a script. -/
def scan? (text : List Char) : Option (List Token) :=
  match Scan.between.run text with
  | (tokens, .between) => some tokens
  | _ => none

/-- The text **scans as** the tokens, and none is left unfinished. -/
def Scans (text : List Char) (tokens : List Token) : Prop :=
  Scan.between.run text = (tokens, .between)

/-- The tokens of a text that ends outside of all of them are all its tokens. -/
theorem Scans.scan? {text : List Char} {tokens : List Token} (h : Scans text tokens) :
    scan? text = some tokens := by
  rw [Spec.scan?, h]

/-- The tokens of two texts are those of the one and then those of the other. -/
theorem Scans.append {xs ys : List Char} {ts us : List Token} (hx : Scans xs ts)
    (hy : Scans ys us) : Scans (xs ++ ys) (ts ++ us) := by
  rw [Scans, Scan.run_append, hx, hy]

/-! ### Literals -/

/-- The escape of a character is read back as this character. -/
theorem run_escapeChar (c : Char) (read : List Char) :
    (Scan.literal read).run (escapeChar c) = ([], .literal (c :: read)) := by
  rw [escapeChar]
  split
  · next h => subst h; rfl
  · split
    · next h => subst h; rfl
    · split
      · next h => subst h; rfl
      · split
        · next h => subst h; rfl
        · next hslash hquote hfeed hreturn =>
          simp [Scan.run, Scan.step, hslash, hquote, hfeed, hreturn]

/-- An escaped text is read within a literal as the text. -/
theorem run_escaped (cs read : List Char) :
    (Scan.literal read).run (cs.flatMap escapeChar) = ([], .literal (cs.reverse ++ read)) := by
  induction cs generalizing read with
  | nil => rfl
  | cons c cs ih =>
      rw [List.flatMap_cons, Scan.run_append, run_escapeChar, ih]
      simp

/-- **A quoted text scans as one literal with the text as its value**, whatever the text. -/
theorem scans_quote (cs : List Char) : Scans (quote cs) [.literal cs] := by
  change (Scan.literal []).run (cs.flatMap escapeChar ++ ['\'']) = _
  rw [Scan.run_append, run_escaped, List.append_nil]
  simp [Scan.run, Scan.step]

/-! ### Names -/

/-- The characters of names go on with a name. -/
theorem continuesName_of_isNameChar {c : Char} (h : isNameChar c = true) :
    continuesName c = true := by
  simp only [isNameChar, Char.isAlphanum, Bool.or_eq_true] at h
  rcases h with (h | h) | h
  · simp [continuesName, startsName, h]
  · simp [continuesName, h]
  · simp [continuesName, startsName, h]

/-- A name is read up to its end. -/
theorem run_name {cs : List Char} (h : cs.all isNameChar = true) (read : List Char) :
    (Scan.name read).run cs = ([], .name (cs.reverse ++ read)) := by
  induction cs generalizing read with
  | nil => rfl
  | cons c cs ih =>
      rw [List.all_cons, Bool.and_eq_true] at h
      have hstep : (Scan.name read).step c = ([], .name (c :: read)) := by
        rw [Scan.step, if_pos (continuesName_of_isNameChar h.1)]
      rw [Scan.run, hstep, ih h.2]
      simp

/-- **An identifier before a parenthesis scans as one name.** -/
theorem scans_identifier {cs : List Char} (h : IsIdentifier cs) :
    Scans (cs ++ ['(']) [.name cs, .sign '('] := by
  obtain ⟨c, rest, rfl, hdigit, hall⟩ := h
  rw [List.all_cons, Bool.and_eq_true] at hall
  have hstart : startsName c = true := by
    have hc := hall.1
    simp only [isNameChar, Char.isAlphanum, hdigit, Bool.or_false] at hc
    simp only [startsName, Bool.or_eq_true] at hc ⊢
    exact .inl hc
  have hopening : Scan.between.step c = ([], .name [c]) := if_pos hstart
  rw [Scans, List.cons_append, Scan.run, hopening, Scan.run_append, run_name hall.2]
  simp [Scan.run, Scan.step, Scan.opening, continuesName, startsName, isSign, isLineEnd]

/-! ### Comments -/

/-- **A comment without a line end in it scans as nothing**, with the line end after it. -/
theorem scans_comment {text : List Char} (h : text.any isLineEnd = false) :
    Scans ('/' :: '/' :: text ++ ['\n']) [] := by
  have hcomment : Scan.comment.run text = ([], .comment) := by
    induction text with
    | nil => rfl
    | cons c cs ih =>
        rw [List.any_cons, Bool.or_eq_false_iff] at h
        have hstep : Scan.comment.step c = ([], .comment) := by
          rw [Scan.step, h.1]
          rfl
        rw [Scan.run, hstep, ih h.2]
        rfl
  change Scan.comment.run (text ++ ['\n']) = _
  rw [Scan.run_append, hcomment]
  rfl

end Scenarist.Spec
