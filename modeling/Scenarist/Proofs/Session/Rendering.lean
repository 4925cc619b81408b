import Mathlib.Data.List.Forall2
import Mathlib.Data.List.Infix
import Scenarist.Proofs.Json.Printer
import Scenarist.Proofs.Spec.Script
import Scenarist.Session.Template
import Scenarist.Settings.Tools

/-!
# What Templates Are Filled In With

A template is filled in once, from left to right, and what is put in is not looked at again. The
strings of a template are cut into tokens and single characters before anything is put in, so that
the cut (`IsCut`) depends on the template alone, whatever tokens, quotes or backslashes there are
in the target and the data. Everything else of the template stays as it is (`Filled`).

A script is a string of a template too, and what is put into it becomes part of its code unless it
stays inside a literal. In the scripts that come with the program it does: no script has a token
other than those for a literal, and all of these stand in the code of their script, outside the
literals that it has of its own (`KeepsToLiterals`). The literal of any text is read there as one
literal, since it has neither a quote nor a line end in it that is not escaped.

## Main results

* `isCut_iff`: a string has one cut, and it is this one that is filled in.
* `mark_literal`: **the literal of a text is read as one literal** in the code of a script.
* `reads_of_reach`: what a part of a script is read as, if all its tokens are well placed.
* `Fits.append`: a script may be read part by part.
* `render_filled`: **a template is filled in once**, and scripts get nothing but literals.
-/

namespace Scenarist.Template

variable {cs rest : List Char} {ps qs : List Piece} {t u : Token}

/-! ### Cutting a string -/

/-- How a piece is written in a template. -/
def Piece.written : Piece → List Char
  | .plain c => [c]
  | .token t => t.written

/-- How pieces are written in a template, one after another. -/
def writtenPieces (ps : List Piece) : List Char := ps.flatMap Piece.written

/-- The pieces are the **cut** of a text into tokens and characters, from left to right: the text is
what is written, and no token begins at a character that stands for itself. -/
structure IsCut (cs : List Char) (ps : List Piece) : Prop where
  written : writtenPieces ps = cs
  leftmost : ∀ before c after, ps = before ++ .plain c :: after →
    ∀ t : Token, ¬ t.written <+: c :: writtenPieces after

/-- Pieces are written one after another. -/
theorem writtenPieces_append (ps qs : List Piece) :
    writtenPieces (ps ++ qs) = writtenPieces ps ++ writtenPieces qs := List.flatMap_append

/-- The first piece is written first. -/
theorem writtenPieces_cons (p : Piece) (ps : List Piece) :
    writtenPieces (p :: ps) = p.written ++ writtenPieces ps := List.flatMap_cons

/-- No token begins another one. -/
theorem eq_of_written_begins : ∀ {t u : Token}, t.written <+: u.written → t = u := by
  intro t u
  cases t <;> cases u <;> decide

/-- One token at most begins a text. -/
theorem eq_of_begins (ht : t.written <+: cs) (hu : u.written <+: cs) : t = u := by
  rcases List.prefix_or_prefix_of_prefix ht hu with h | h
  · exact eq_of_written_begins h
  · exact (eq_of_written_begins h).symm

/-- These are all tokens. -/
theorem mem_tokens (t : Token) :
    t ∈ [Token.targetLiteral, .dataLiteral, .target, .data] := by
  cases t <;> decide

/-- The token that is read is the one at the beginning of the text. -/
theorem tokenAt?_eq_some_iff : tokenAt? cs = some (t, rest) ↔ cs = t.written ++ rest := by
  have hread : ∀ {u r}, tokenAt? cs = some (u, r) → cs = u.written ++ r := by
    intro u r h
    obtain ⟨v, -, hv⟩ := List.exists_of_findSome?_eq_some h
    obtain ⟨r', hr, heq⟩ := Option.map_eq_some_iff.1 hv
    cases heq
    exact (List.isPrefixOf?_eq_some_iff_append_eq.1 hr).symm
  constructor
  · exact hread
  · intro h
    have hsome : (tokenAt? cs).isSome = true := by
      refine List.findSome?_isSome_iff.2 ⟨t, mem_tokens t, ?_⟩
      rw [List.isPrefixOf?_eq_some_iff_append_eq.2 h.symm]
      rfl
    obtain ⟨⟨u, r⟩, hu⟩ := Option.isSome_iff_exists.1 hsome
    have hcs := hread hu
    obtain rfl := eq_of_begins ⟨r, hcs.symm⟩ ⟨rest, h.symm⟩
    rw [hu, List.append_cancel_left (hcs.symm.trans h)]

/-- A token begins with a brace. -/
theorem exists_written (t : Token) : ∃ cs, t.written = '\x7b' :: cs := by
  cases t <;> exact ⟨_, rfl⟩

/-- No token is found where none is written. -/
theorem tokenAt?_eq_none_iff : tokenAt? cs = none ↔ ∀ t : Token, ¬ t.written <+: cs := by
  constructor
  · rintro h t ⟨rest, hrest⟩
    rw [tokenAt?_eq_some_iff.2 hrest.symm] at h
    cases h
  · intro h
    cases hread : tokenAt? cs with
    | none => rfl
    | some found => exact absurd ⟨found.2, (tokenAt?_eq_some_iff.1 hread).symm⟩ (h found.1)

/-- A token begins with a brace. -/
theorem tokenAt?_cons (c : Char) (cs : List Char) :
    tokenAt? (c :: cs) = if c = '\x7b' then tokenAt? (c :: cs) else none := by
  split
  · rfl
  · next hc =>
    refine tokenAt?_eq_none_iff.2 fun t ht => hc ?_
    obtain ⟨rest, hrest⟩ := exists_written t
    rw [hrest, List.cons_prefix_cons] at ht
    exact ht.1.symm

/-- No piece is written with no characters. -/
theorem written_pos (p : Piece) : 0 < p.written.length := by
  cases p with
  | plain c => exact Nat.one_pos
  | token t => cases t <;> decide

/-- Something is written for every piece. -/
theorem eq_nil_of_writtenPieces (h : writtenPieces ps = []) : ps = [] := by
  cases ps with
  | nil => rfl
  | cons p ps =>
      rw [writtenPieces_cons, List.append_eq_nil_iff] at h
      have hpos := written_pos p
      rw [h.1] at hpos
      exact absurd hpos (lt_irrefl 0)

/-- The empty text is cut into no pieces. -/
theorem isCut_nil : IsCut [] [] :=
  ⟨rfl, fun _ _ _ h => absurd h.symm (by simp)⟩

/-- A token in front is cut off as a piece. -/
theorem IsCut.token (h : IsCut rest ps) (t : Token) :
    IsCut (t.written ++ rest) (.token t :: ps) := by
  refine ⟨by rw [writtenPieces_cons, h.written]; rfl, ?_⟩
  rintro (_ | ⟨_, before⟩) c after heq
  · cases heq
  · cases heq
    exact h.leftmost before c after rfl

/-- A character at which no token begins is a piece by itself. -/
theorem IsCut.plain {c : Char} (h : IsCut cs ps) (hc : ∀ t : Token, ¬ t.written <+: c :: cs) :
    IsCut (c :: cs) (.plain c :: ps) := by
  refine ⟨by rw [writtenPieces_cons, h.written]; rfl, ?_⟩
  rintro (_ | ⟨_, before⟩) d after heq
  · cases heq
    rw [h.written]
    exact hc
  · cases heq
    exact h.leftmost before d after rfl

/-- Pieces behind the first one are a cut of what is written behind it. -/
theorem IsCut.tail {p : Piece} (h : IsCut cs (p :: ps)) : IsCut (writtenPieces ps) ps :=
  ⟨rfl, fun before c after heq => h.leftmost (p :: before) c after (by rw [heq]; rfl)⟩

/-- Where there is no token the character is a piece. -/
theorem piecesFrom_of_none {fuel : Nat} {c : Char} (h : tokenAt? (c :: cs) = none) :
    piecesFrom (fuel + 1) (c :: cs) = .plain c :: piecesFrom fuel cs := by
  rw [piecesFrom, h]

/-- Where there is a token it is a piece. -/
theorem piecesFrom_of_some {fuel : Nat} (hne : cs ≠ []) (h : tokenAt? cs = some (t, rest)) :
    piecesFrom (fuel + 1) cs = .token t :: piecesFrom fuel rest := by
  cases cs with
  | nil => exact absurd rfl hne
  | cons c cs => rw [piecesFrom, h]

/-- A text is cut from left to right, with fuel for each character. -/
theorem isCut_piecesFrom {fuel : Nat} (h : cs.length ≤ fuel) : IsCut cs (piecesFrom fuel cs) := by
  induction fuel generalizing cs with
  | zero =>
      obtain rfl := List.length_eq_zero_iff.1 (Nat.le_zero.1 h)
      exact isCut_nil
  | succ fuel ih =>
      cases cs with
      | nil => exact isCut_nil
      | cons c cs =>
          cases hread : tokenAt? (c :: cs) with
          | none =>
              rw [piecesFrom_of_none hread]
              exact (ih (Nat.le_of_succ_le_succ h)).plain (tokenAt?_eq_none_iff.1 hread)
          | some found =>
              obtain ⟨t, rest⟩ := found
              rw [piecesFrom_of_some (List.cons_ne_nil c cs) hread]
              have hwritten := tokenAt?_eq_some_iff.1 hread
              have hpos : 0 < t.written.length := written_pos (.token t)
              rw [hwritten, List.length_append] at h
              rw [hwritten]
              exact (ih (by omega)).token t

/-- A text is cut into nothing but its cut. -/
theorem piecesFrom_of_isCut {fuel : Nat} (hfuel : cs.length ≤ fuel) (h : IsCut cs ps) :
    piecesFrom fuel cs = ps := by
  have hwritten := h.written
  induction fuel generalizing cs ps with
  | zero =>
      obtain rfl := List.length_eq_zero_iff.1 (Nat.le_zero.1 hfuel)
      exact (eq_nil_of_writtenPieces hwritten).symm
  | succ fuel ih =>
      cases ps with
      | nil =>
          subst hwritten
          rfl
      | cons p ps =>
          rw [writtenPieces_cons] at hwritten
          cases p with
          | plain c =>
              obtain rfl : cs = c :: writtenPieces ps := hwritten.symm
              rw [piecesFrom_of_none (tokenAt?_eq_none_iff.2 (h.leftmost [] c ps rfl)),
                ih (Nat.le_of_succ_le_succ hfuel) h.tail rfl]
          | token t =>
              have hpos := written_pos (.token t)
              have hlength := congrArg List.length hwritten
              rw [List.length_append] at hlength
              have hne : cs ≠ [] := List.ne_nil_of_length_pos (by omega)
              rw [piecesFrom_of_some hne (tokenAt?_eq_some_iff.2 hwritten.symm),
                ih (by omega) h.tail rfl]

/-- **A string has one cut**, and it is what the string is filled in from. -/
theorem isCut_iff {s : String} : IsCut s.toList ps ↔ pieces s = ps := by
  constructor
  · exact piecesFrom_of_isCut le_rfl
  · rintro rfl
    exact isCut_piecesFrom le_rfl

/-! ### Filling in -/

section

variable (cut : String → List Piece) (target : String) (data : Option String)

/-- The text is a **literal that stands for** the string: it has the form of one, and it is read as
the string. -/
structure IsLiteral (cs : List Char) (s : String) : Prop where
  form : Json.Spells (.string (some s)) cs
  reads : Json.parse? (String.ofList cs) = some (.string s)

/-- The literal of a text is a literal for it. -/
theorem isLiteral_literal (s : String) : IsLiteral (Json.literal s) s :=
  ⟨Json.spells_literal s, Json.parse?_of_spells (v := .string s) (Json.spells_literal s) trivial⟩

/-- What may be put in for a piece in a step with a target and data: the character itself, the text
of the target or of the data, or a literal that stands for it. -/
inductive Piece.PutIn : Piece → List Char → Prop where
  | plain (c : Char) : PutIn (.plain c) [c]
  | target : PutIn (.token .target) target.toList
  | data : PutIn (.token .data) (data.getD "").toList
  | targetLiteral {cs : List Char} (h : IsLiteral cs target) : PutIn (.token .targetLiteral) cs
  | dataLiteral {cs : List Char} (h : IsLiteral cs (data.getD "")) :
      PutIn (.token .dataLiteral) cs

/-- What is put in for a piece is its value. -/
theorem putIn_value (p : Piece) : p.PutIn target data (p.value target data) := by
  cases p with
  | plain c => exact .plain c
  | token t =>
      cases t with
      | target => exact .target
      | data => exact .data
      | targetLiteral => exact .targetLiteral (isLiteral_literal target)
      | dataLiteral => exact .dataLiteral (isLiteral_literal (data.getD ""))

mutual

/-- The value is the template **filled in** for a step with a target and data, its strings cut in
the given way: the mark of a list has become the list of the data, any other string what is put in
for its pieces, one after another, and all else has stayed as it was. -/
inductive Filled : Json → Json → Prop where
  | null : Filled .null .null
  | bool (b : Bool) : Filled (.bool b) (.bool b)
  | number (n : Json.Number) : Filled (.number n) (.number n)
  | values : Filled (.string valuesMark) (.array (data.toList.map .string))
  | string {s : String} {texts : List (List Char)} (h : s ≠ valuesMark)
      (hpieces : List.Forall₂ (Piece.PutIn target data) (cut s) texts) :
      Filled (.string s) (.string (String.ofList texts.flatten))
  | array {items filled : List Json} (h : FilledItems items filled) :
      Filled (.array items) (.array filled)
  | object {members filled : List (String × Json)} (h : FilledMembers members filled) :
      Filled (.object members) (.object filled)

/-- The items are those of the template, filled in. -/
inductive FilledItems : List Json → List Json → Prop where
  | nil : FilledItems [] []
  | cons {v w : Json} {vs ws : List Json} (hv : Filled v w) (h : FilledItems vs ws) :
      FilledItems (v :: vs) (w :: ws)

/-- The members are those of the template, with the same keys and their values filled in. -/
inductive FilledMembers : List (String × Json) → List (String × Json) → Prop where
  | nil : FilledMembers [] []
  | cons {k : String} {v w : Json} {vs ws : List (String × Json)} (hv : Filled v w)
      (h : FilledMembers vs ws) : FilledMembers ((k, v) :: vs) ((k, w) :: ws)

end

mutual

/-- **A template is filled in** piece by piece. -/
theorem filled_render (v : Json) : Filled pieces target data v (render target data v) := by
  match v with
  | .null => exact .null
  | .bool b => exact .bool b
  | .number n => exact .number n
  | .string s =>
      rw [render]
      split
      · next h =>
        subst h
        exact .values
      · next h =>
        rw [fill, List.flatMap_def]
        refine .string h (List.forall₂_map_right_iff.2 (List.forall₂_same.2 ?_))
        intro p _
        exact putIn_value target data p
  | .array items => exact .array (filledItems_renderItems items)
  | .object members => exact .object (filledMembers_renderMembers members)

/-- Each item is filled by itself. -/
theorem filledItems_renderItems (items : List Json) :
    FilledItems pieces target data items (renderItems target data items) := by
  match items with
  | [] => exact .nil
  | v :: vs => exact .cons (filled_render v) (filledItems_renderItems vs)

/-- The value of each member is filled by itself, and the keys are left alone. -/
theorem filledMembers_renderMembers (members : List (String × Json)) :
    FilledMembers pieces target data members (renderMembers target data members) := by
  match members with
  | [] => exact .nil
  | (k, v) :: ms => exact .cons (filled_render v) (filledMembers_renderMembers ms)

end

end

/-! ### Literals in a script -/

section

open Spec (Mode Region mark)

/-- A character of a literal that is written as it is does not end it. -/
theorem mark_inside_cons {c : Char} (hquote : c ≠ '"') (hslash : c ≠ '\\')
    (hcontrol : 32 ≤ c.toNat) (rest : List Char) :
    mark (.literal '"') (c :: rest) = (c, .literal) :: mark (.literal '"') rest := by
  have hfeed : c ≠ '\n' := by
    rintro rfl
    exact absurd hcontrol (by decide)
  have hreturn : c ≠ '\r' := by
    rintro rfl
    exact absurd hcontrol (by decide)
  have hstep : Mode.step (.literal '"') c rest.head? = (.literal, .literal '"') := by
    simp [Mode.step, hquote, hslash, hfeed, hreturn]
  rw [mark, hstep]

/-- The digits of an escaped character belong to the literal. -/
theorem mark_hex_cons {c : Char} (hc : Text.isHexDigit c = true) (rest : List Char) :
    mark (.literal '"') (c :: rest) = (c, .literal) :: mark (.literal '"') rest := by
  refine mark_inside_cons ?_ ?_ ?_ rest
  · rintro rfl
    exact absurd hc (by decide)
  · rintro rfl
    exact absurd hc (by decide)
  · rw [Text.isHexDigit, Text.hexValue?] at hc
    by_contra hlow
    have hdigit : ¬ 48 ≤ c.toNat := by omega
    have hlower : ¬ 97 ≤ c.toNat := by omega
    have hupper : ¬ 65 ≤ c.toNat := by omega
    simp [hdigit, hlower, hupper] at hc

/-- The inside of a literal goes up to the quote that ends it. -/
theorem mark_body {body : List Char} (h : Json.LiteralBody body) (rest : List Char) :
    mark (.literal '"') (body ++ '"' :: rest) =
      body.map (·, .literal) ++ ('"', .literal) :: mark .code rest := by
  induction h with
  | nil => rfl
  | plain hquote hslash hcontrol _ ih =>
      rw [List.cons_append, mark_inside_cons hquote hslash hcontrol, ih]
      rfl
  | @escape c cs hc _ ih =>
      have hreturn : c ≠ '\r' := by
        rintro rfl
        exact absurd hc (by decide)
      have hstep : Mode.step (.escaped '"') c (cs ++ '"' :: rest).head? =
          (.literal, .literal '"') := by
        simp [Mode.step, hreturn]
      have hslash : mark (.literal '"') ('\\' :: c :: (cs ++ '"' :: rest)) =
          ('\\', .literal) :: mark (.escaped '"') (c :: (cs ++ '"' :: rest)) := rfl
      rw [List.cons_append, List.cons_append, hslash, mark, hstep, ih]
      rfl
  | @code x y z t cs hdigits _ ih =>
      simp only [List.all_cons, List.all_nil, Bool.and_eq_true, Bool.and_true] at hdigits
      obtain ⟨hx, hy, hz, ht⟩ := hdigits
      have hslash : ∀ rest, mark (.literal '"') ('\\' :: 'u' :: rest) =
          ('\\', .literal) :: ('u', .literal) :: mark (.literal '"') rest := fun _ => rfl
      simp only [List.cons_append]
      rw [hslash, mark_hex_cons hx, mark_hex_cons hy, mark_hex_cons hz, mark_hex_cons ht, ih]
      rfl

/-- **The literal of a text is read as one literal** in the code of a script, whatever the text. -/
theorem mark_literal (s : String) (rest : List Char) :
    mark .code (Json.literal s ++ rest) =
      (Json.literal s).map (·, .literal) ++ mark .code rest := by
  have hbody := mark_body (Json.literalBody_escaped s.toList) rest
  have hopen : ∀ cs, mark .code ('"' :: cs) = ('"', .literal) :: mark (.literal '"') cs :=
    fun _ => rfl
  rw [Json.literal, Json.literalBody, List.cons_append, List.append_assoc, List.singleton_append,
    hopen, hbody]
  simp

/-! ### Reading a part of a script -/

/-- The token is put in as a literal. -/
def Token.isLiteral : Token → Bool
  | .target => false
  | .data => false
  | .targetLiteral => true
  | .dataLiteral => true

/-- The text of a script in a step with a target and data. -/
def textOf (target : String) (data : Option String) (marked : List (Piece × Region)) :
    List Char :=
  marked.flatMap fun x => x.1.value target data

/-- The characters of the text, each with what it belongs to. -/
def marksOf (target : String) (data : Option String) (marked : List (Piece × Region)) :
    List Spec.Mark :=
  marked.flatMap fun x => (x.1.value target data).map (·, x.2)

/-- A part of a script, between two modes of reading, is **read as** pieces that belong to what is
said: no tokens are among them but those for literals, each belongs to a literal, and what the
characters belong to is the same in all steps and whatever comes after them. -/
structure Reads (m : Mode) (marked : List (Piece × Region)) (n : Mode) : Prop where
  tokens : ∀ t r, (.token t, r) ∈ marked → t.isLiteral = true ∧ r = .literal
  mark : ∀ target data rest,
    Spec.mark m (textOf target data marked ++ rest) =
      marksOf target data marked ++ Spec.mark n rest

/-- Nothing is read in the empty list of pieces. -/
theorem reads_nil (m : Mode) : Reads m [] m :=
  ⟨fun _ _ hmem => absurd hmem List.not_mem_nil, fun _ _ _ => rfl⟩

/-- Pieces are read one after another. -/
theorem Reads.append {l m n : Mode} {as bs : List (Piece × Region)} (ha : Reads l as m)
    (hb : Reads m bs n) : Reads l (as ++ bs) n := by
  refine ⟨fun t r hmem => ?_, fun target data rest => ?_⟩
  · rcases List.mem_append.1 hmem with hmem | hmem
    · exact ha.tokens t r hmem
    · exact hb.tokens t r hmem
  · rw [textOf, marksOf, List.flatMap_append, List.flatMap_append, List.append_assoc,
      List.append_assoc]
    exact (ha.mark target data _).trans (congrArg _ (hb.mark target data rest))

/-- A token for a literal is a literal as a whole, and the script goes on after it. -/
theorem reads_token {t : Token} (ht : t.isLiteral = true) :
    Reads .code [(.token t, .literal)] .code := by
  refine ⟨fun u r hmem => ?_, fun target data rest => ?_⟩
  · cases List.mem_singleton.1 hmem
    exact ⟨ht, rfl⟩
  · rw [textOf, marksOf, List.flatMap_singleton, List.flatMap_singleton]
    cases t with
    | targetLiteral => exact mark_literal target rest
    | dataLiteral => exact mark_literal (data.getD "") rest
    | target | data => cases ht

/-- What is after the character does not matter to its reading, in code and inside literals, nor
does the character make an escape or a template. -/
def isInert (c : Char) : Bool := !(['/', '\\', '\n', '\r', '\x60'].contains c)

/-- The reading is in code, or inside a literal. -/
def isSettled : Mode → Bool
  | .code => true
  | .literal _ => true
  | _ => false

/-- How an inert character is read does not depend on the next one, and the reading is settled after
it. -/
theorem step_of_isInert {m : Mode} {c : Char} (hm : isSettled m = true) (hc : isInert c = true)
    (next : Option Char) :
    m.step c next = m.step c none ∧ isSettled (m.step c none).2 = true := by
  simp [isInert] at hc
  cases m with
  | code =>
      simp only [Mode.step, hc]
      split <;> simp [isSettled]
  | literal q =>
      simp only [Mode.step, hc]
      split <;> simp [isSettled]
  | _ => cases hm

/-- An inert character is read by itself. -/
theorem reads_plain {m : Mode} {c : Char} (hm : isSettled m = true) (hc : isInert c = true) :
    Reads m [(.plain c, (m.step c none).1)] (m.step c none).2 := by
  refine ⟨fun t r hmem => ?_, fun target data rest => ?_⟩
  · cases List.mem_singleton.1 hmem
  · change mark m (c :: rest) = _
    rw [Spec.mark, (step_of_isInert hm hc _).1]
    rfl

/-- Where the reading of a text of at most `fuel` characters is at its end, if all its pieces are
well placed. -/
def reach? : Nat → Mode → List Char → Option Mode
  | _, m, [] => some m
  | 0, _, _ :: _ => none
  | fuel + 1, m, c :: cs =>
    match if c = '\x7b' then tokenAt? (c :: cs) else none with
    | some (t, rest) => if t.isLiteral && m = .code then reach? fuel .code rest else none
    | none => if isInert c then reach? fuel (m.step c none).2 cs else none

/-- **What a part is read as**, if all its pieces are well placed. -/
theorem reads_of_reach {fuel : Nat} {m n : Mode} (hm : isSettled m = true)
    (h : reach? fuel m cs = some n) :
    ∃ marked, IsCut cs (marked.map Prod.fst) ∧ Reads m marked n := by
  induction fuel generalizing m cs with
  | zero =>
      cases cs with
      | nil =>
          cases h
          exact ⟨[], isCut_nil, reads_nil _⟩
      | cons c cs => cases h
  | succ fuel ih =>
      cases cs with
      | nil =>
          cases h
          exact ⟨[], isCut_nil, reads_nil _⟩
      | cons c cs =>
          rw [reach?, ← tokenAt?_cons] at h
          split at h
          · next t rest htoken =>
            split at h
            · next ht =>
              rw [Bool.and_eq_true, decide_eq_true_eq] at ht
              obtain ⟨ht, rfl⟩ := ht
              obtain ⟨marked, hcut, hmarked⟩ := ih rfl h
              rw [tokenAt?_eq_some_iff.1 htoken]
              exact ⟨(.token t, .literal) :: marked, hcut.token t, (reads_token ht).append hmarked⟩
            · cases h
          · next htoken =>
            split at h
            · next hc =>
              obtain ⟨marked, hcut, hmarked⟩ := ih (step_of_isInert hm hc none).2 h
              exact ⟨(.plain c, _) :: marked, hcut.plain (tokenAt?_eq_none_iff.1 htoken),
                (reads_plain hm hc).append hmarked⟩
            · cases h

/-! ### Scripts part by part -/

/-- The text does not end with the beginning of a token. -/
def EndsApart (cs : List Char) : Prop :=
  ∀ x, x <:+ cs → x ≠ [] → ∀ t : Token, ¬ x <+: t.written

/-- Decides whether a text does not end with the beginning of a token. -/
def isApart : List Char → Bool
  | [] => true
  | c :: cs =>
    (c != '\x7b' || [Token.targetLiteral, .dataLiteral, .target, .data].all fun t =>
      !(c :: cs).isPrefixOf t.written) && isApart cs

/-- Where `isApart` says so, the text does not end with the beginning of a token. -/
theorem endsApart_of_isApart (h : isApart cs = true) : EndsApart cs := by
  induction cs with
  | nil =>
      intro x hx hne
      exact absurd (List.suffix_nil.1 hx) hne
  | cons c cs ih =>
      rw [isApart, Bool.and_eq_true, Bool.or_eq_true, bne_iff_ne, List.all_eq_true] at h
      intro x hx hne t hprefix
      rcases List.suffix_cons_iff.1 hx with rfl | hx
      · rcases h.1 with hc | hnone
        · obtain ⟨rest, hrest⟩ := exists_written t
          rw [hrest, List.cons_prefix_cons] at hprefix
          exact hc hprefix.1
        · have hno := hnone t (mem_tokens t)
          rw [List.isPrefixOf_iff_prefix.2 hprefix] at hno
          cases hno
      · exact ih h.2 x hx hne t hprefix

/-- Two such texts make up another one. -/
theorem EndsApart.append {xs ys : List Char} (hx : EndsApart xs) (hy : EndsApart ys) :
    EndsApart (xs ++ ys) := by
  rintro z ⟨before, hz⟩ hne t hprefix
  rcases List.append_eq_append_iff.1 hz with ⟨x, rfl, rfl⟩ | ⟨y, rfl, rfl⟩
  · cases x with
    | nil => exact hy _ List.suffix_rfl hne t hprefix
    | cons c x =>
        exact hx (c :: x) (List.suffix_append _ _) (List.cons_ne_nil c x) t
          ((List.prefix_append _ _).trans hprefix)
  · exact hy z (List.suffix_append _ _) hne t hprefix

/-- A text is cut by itself if what is before it does not end with the beginning of a token. -/
theorem IsCut.append {xs ys : List Char} (hx : IsCut xs ps) (hy : IsCut ys qs)
    (hends : EndsApart xs) : IsCut (xs ++ ys) (ps ++ qs) := by
  refine ⟨by rw [writtenPieces_append, hx.written, hy.written], ?_⟩
  intro before c after heq t hprefix
  rcases List.append_eq_append_iff.1 heq with ⟨between, rfl, hqs⟩ | ⟨_ | ⟨p, between⟩, rfl, hps⟩
  · exact hy.leftmost between c after hqs t hprefix
  · exact hy.leftmost [] c after hps.symm t hprefix
  · -- the piece is one of the first text, and a token there would go on into the second one
    obtain ⟨rfl, rfl⟩ := List.cons.inj hps
    have hlong : t.written <+: c :: writtenPieces between ++ writtenPieces qs := by
      rw [List.cons_append, ← writtenPieces_append]
      exact hprefix
    rcases List.prefix_or_prefix_of_prefix hlong (List.prefix_append _ _) with h | h
    · exact hx.leftmost before c between rfl t h
    · refine hends _ ?_ (List.cons_ne_nil c _) t h
      rw [← hx.written, writtenPieces_append]
      exact List.suffix_append _ _

/-- A part of a script **fits** between two modes of reading if it is read from the one to the
other as its cut, which does not depend on what stands around it. -/
def Fits (m : Mode) (s : String) (n : Mode) : Prop :=
  EndsApart s.toList ∧ ∃ marked, IsCut s.toList (marked.map Prod.fst) ∧ Reads m marked n

/-- **Parts that fit can be put one after another.** -/
theorem Fits.append {l m n : Mode} {a b : String} (ha : Fits l a m) (hb : Fits m b n) :
    Fits l (a ++ b) n := by
  obtain ⟨haEnds, as, haCut, haReads⟩ := ha
  obtain ⟨hbEnds, bs, hbCut, hbReads⟩ := hb
  rw [Fits, String.toList_append]
  refine ⟨haEnds.append hbEnds, as ++ bs, ?_, haReads.append hbReads⟩
  rw [List.map_append]
  exact haCut.append hbCut haEnds

/-- A part that is given by its characters fits if its pieces are all well placed. -/
theorem fits_ofList {m n : Mode} {cs : List Char} (hm : isSettled m = true)
    (h : reach? cs.length m cs = some n ∧ isApart cs = true) :
    Fits m (String.ofList cs) n := by
  rw [Fits, String.toList_ofList]
  exact ⟨endsApart_of_isApart h.2, reads_of_reach hm h.1⟩

/-! ### Scripts -/

/-- The script **keeps to literals**: it is filled in along its cut, each of its tokens is put in as
a literal, which is read as a literal of the script, and its other characters are read in the same
way in all steps. -/
def KeepsToLiterals (script : String) : Prop :=
  ∃ marked, IsCut script.toList (marked.map Prod.fst) ∧ Reads .code marked .code ∧
    ∀ target data,
      render target data (.string script) = .string (String.ofList (textOf target data marked))

/-- A script that fits between code and code keeps to its literals. -/
theorem Fits.keepsToLiterals {script : String} (h : Fits .code script .code)
    (hscript : script ≠ valuesMark) : KeepsToLiterals script := by
  obtain ⟨-, marked, hcut, hreads⟩ := h
  refine ⟨marked, hcut, hreads, fun target data => ?_⟩
  rw [render, if_neg hscript, fill, isCut_iff.1 hcut, List.flatMap_map]
  rfl

/-- The tools of a toolbox. -/
def tools (b : Toolbox) : List Tool :=
  [b.navigate, b.click, b.fill, b.typeText, b.assertVisible, b.waitFor, b.selectOption, b.hover,
    b.validateSelector]

/-- The tool runs the script on the page. -/
def Runs (tool : Tool) (script : String) : Prop :=
  tool = ⟨"browser_evaluate", .object [("function", .string script)]⟩

/-! ### The scripts for the page -/

/-- The script that finds an element fits. -/
theorem fits_findElement : Fits .code Toolbox.findElement .code := by
  iterate 6 refine .append (m := .code) ?_ ?_
  all_goals exact fits_ofList rfl (by decide)

/-- The script that asks for an element fits. -/
theorem fits_requireElement : Fits .code Toolbox.requireElement .code := by
  rw [Toolbox.requireElement]
  exact fits_ofList rfl (by decide)

/-- A text that is put behind another one does not change how it begins. -/
theorem head?_toList_append {a b : String} {c : Char} (h : a.toList.head? = some c) :
    (a ++ b).toList.head? = some c := by
  rw [String.toList_append, List.head?_append, h]
  rfl

/-- A script is not the mark of a list, which begins with a brace. -/
theorem ne_valuesMark {script : String} (h : script.toList.head? = some 'a') :
    script ≠ valuesMark := by
  rintro rfl
  exact absurd h (by decide)

/-- A script keeps to literals if its body fits. -/
theorem runs_script {body : String} (h : Fits .code body .code) :
    ∃ script, Runs (Toolbox.script body) script ∧ KeepsToLiterals script := by
  refine ⟨_, rfl, Fits.keepsToLiterals ?_ (ne_valuesMark ?_)⟩
  · iterate 4 refine .append (m := .code) ?_ ?_
    · exact fits_ofList rfl (by decide)
    · exact fits_findElement
    · exact fits_ofList rfl (by decide)
    · exact h
    · exact fits_ofList rfl (by decide)
  · iterate 4 refine head?_toList_append ?_
    decide +kernel

/-- The name of an event stands inside a literal of its script. -/
theorem runs_setValue {event : String} (h : Fits (.literal '\'') event (.literal '\'')) :
    ∃ script, Runs (Toolbox.setValue event) script ∧ KeepsToLiterals script := by
  refine runs_script (.append (m := .code) (.append (m := .literal '\'')
    (.append (m := .literal '\'') ?_ h) ?_) ?_)
  · iterate 3 refine .append (m := .code) ?_ ?_
    · exact fits_requireElement
    all_goals exact fits_ofList rfl (by decide)
  all_goals exact fits_ofList rfl (by decide)

/-- The tool for a click runs a script that keeps to literals. -/
theorem runs_click :
    ∃ script, Runs Toolbox.scripted.click script ∧ KeepsToLiterals script :=
  runs_script (.append (m := .code) fits_requireElement (fits_ofList rfl (by decide)))

/-- The tool for an assertion runs a script that keeps to literals. -/
theorem runs_assertVisible :
    ∃ script, Runs Toolbox.scripted.assertVisible script ∧ KeepsToLiterals script := by
  refine runs_script ?_
  iterate 3 refine .append (m := .code) ?_ ?_
  · exact fits_requireElement
  all_goals exact fits_ofList rfl (by decide)

/-- The tool for waiting runs a script that keeps to literals. -/
theorem runs_waitFor :
    ∃ script, Runs Toolbox.scripted.waitFor script ∧ KeepsToLiterals script := by
  refine ⟨_, rfl, Fits.keepsToLiterals ?_ (ne_valuesMark ?_)⟩
  · iterate 6 refine .append (m := .code) ?_ ?_
    all_goals exact fits_ofList rfl (by decide)
  · iterate 6 refine head?_toList_append ?_
    decide +kernel

/-- The tool for hovering runs a script that keeps to literals. -/
theorem runs_hover :
    ∃ script, Runs Toolbox.scripted.hover script ∧ KeepsToLiterals script := by
  refine runs_script ?_
  iterate 3 refine .append (m := .code) ?_ ?_
  · exact fits_requireElement
  all_goals exact fits_ofList rfl (by decide)

/-- The tool for a validation runs a script that keeps to literals. -/
theorem runs_validateSelector :
    ∃ script, Runs Toolbox.scripted.validateSelector script ∧ KeepsToLiterals script := by
  refine runs_script ?_
  iterate 8 refine .append (m := .code) ?_ ?_
  · exact fits_requireElement
  all_goals exact fits_ofList rfl (by decide)

/-- All tools for scripts but the one that navigates run a script that keeps to literals. -/
theorem scripted_keepsToLiterals : ∀ tool ∈ tools .scripted, tool = Toolbox.scripted.navigate ∨
    ∃ script, Runs tool script ∧ KeepsToLiterals script := by
  intro tool htool
  simp only [tools, List.mem_cons, List.not_mem_nil, or_false] at htool
  rcases htool with rfl | rfl | rfl | rfl | rfl | rfl | rfl | rfl | rfl
  · exact .inl rfl
  · exact .inr runs_click
  · exact .inr (runs_setValue (fits_ofList rfl (by decide)))
  · exact .inr (runs_setValue (fits_ofList rfl (by decide)))
  · exact .inr runs_assertVisible
  · exact .inr runs_waitFor
  · exact .inr (runs_setValue (fits_ofList rfl (by decide)))
  · exact .inr runs_hover
  · exact .inr runs_validateSelector

end

/-- **A template is filled in once.** There is a way to cut strings, from left to right and each
by itself, such that any template is filled in along this cut in all steps: nothing that is put in
is cut again. In the scripts for the page, the target and the data are inside literals only. -/
theorem render_filled :
    (∃ cut : String → List Piece, (∀ s ps, IsCut s.toList ps ↔ cut s = ps) ∧
      ∀ target data template, Filled cut target data template (render target data template)) ∧
    ∀ tool ∈ tools .scripted, tool = Toolbox.scripted.navigate ∨
      ∃ script, Runs tool script ∧ KeepsToLiterals script :=
  ⟨⟨pieces, fun _ _ => isCut_iff, fun target data => filled_render target data⟩,
    scripted_keepsToLiterals⟩

end Scenarist.Template
