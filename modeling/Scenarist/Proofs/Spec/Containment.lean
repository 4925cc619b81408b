import Scenarist.Proofs.Spec.Script
import Scenarist.Spec.Source

/-!
# The Text of a Scenario Stays Text

A spec file is laid out in pieces (`sheet`): fixed code, quoted literals, comments, and the
methods that unrecognized actions are called by, which are identifiers. If the file is read the
way a script is read, then what was meant as a line is one line, and what was meant as a literal
or a comment is just that, whatever the name, the targets, the data and the descriptions are.

The tags are the exception. They are joined as they are, where every other text in a comment has
been put on one line, so a tag with a line end in it ends the comment and goes on as code.

## Main results

* `written_sheet`: the sheet is written as the lines of the file.
* `tidy_of_mem_sheet`: every line of the sheet but the tags is tidy, whatever the scenario.
* `compile_contained`: **a spec file is read line by line as its sheet exactly if no tag has a
  line end in it**, and then scenarios that differ in name, tags and descriptions alone have files
  that differ in the comments and in the literal of the name.
-/

namespace Scenarist.Spec

/-! ### The pieces of a statement -/

/-- Arguments between commas. -/
def argumentPieces : List (List Char) → List Piece
  | [] => []
  | [a] => [.literal a]
  | a :: rest => .literal a :: .code ", ".toList :: argumentPieces rest

/-- The pieces of the expression for a locator. -/
def Locator.pieces : Locator → List Piece
  | .role r n => [.code "page.getByRole(".toList, .literal r, .code ", \x7b name: ".toList,
      .literal n, .code " \x7d)".toList]
  | .text t => [.code "page.getByText(".toList, .literal t, .code [')']]
  | .selector s => [.code "page.locator(".toList, .literal s, .code [')']]

/-- The pieces of a call, from the code before its arguments to the closing parenthesis. -/
def callPieces (opening : List Char) (args : List (List Char)) : List Piece :=
  .code opening :: argumentPieces args ++ [.code [')']]

/-- The pieces of a method of the page for a selector, of the locator otherwise. -/
def onElementPieces (on : Locator) (method : String) (args : List (List Char)) : List Piece :=
  match on with
  | .selector selector => callPieces ("page.".toList ++ method.toList ++ ['(']) (selector :: args)
  | on => on.pieces ++ callPieces ('.' :: method.toList ++ ['(']) args

/-- The pieces of the expression of a statement. -/
def Statement.pieces : Statement → List Piece
  | .goto url => callPieces "page.goto(".toList [url]
  | .click on => onElementPieces on "click" []
  | .fill on data => onElementPieces on "fill" [data]
  | .visible on => .code "expect(".toList :: on.pieces ++ [.code ").toBeVisible()".toList]
  | .containsText on text =>
    .code "expect(".toList :: on.pieces ++ callPieces ").toContainText(".toList [text]
  | .waitFor selector => callPieces "page.waitForSelector(".toList [selector]
  | .select on data => onElementPieces on "selectOption" [data]
  | .hover on => onElementPieces on "hover" []
  | .call method target data =>
    callPieces ("page.".toList ++ method ++ ['(']) (target :: data.toList)

/-- The pieces of the line of a statement. -/
def Statement.linePieces (s : Statement) : List Piece :=
  .code "  await ".toList :: s.pieces ++ [.code [';']]

/-- No pieces are written as nothing. -/
@[simp] theorem written_nil : writtenLine [] = [] := rfl

/-- The first piece is written first. -/
@[simp] theorem written_cons (p : Piece) (ps : List Piece) :
    writtenLine (p :: ps) = p.written ++ writtenLine ps := List.flatMap_cons

/-- Pieces are written one after another. -/
@[simp] theorem written_append (ps qs : List Piece) :
    writtenLine (ps ++ qs) = writtenLine ps ++ writtenLine qs := List.flatMap_append

/-- The arguments are quoted, with commas between them. -/
theorem written_argumentPieces (args : List (List Char)) :
    writtenLine (argumentPieces args) = List.intercalate ", ".toList (args.map quote) := by
  induction args with
  | nil => rfl
  | cons a rest ih =>
      cases rest with
      | nil =>
          rw [List.map_singleton, List.intercalate_singleton]
          exact List.append_nil (quote a)
      | cons b rest =>
          simp only [List.map_cons, List.intercalate_cons_cons] at ih ⊢
          rw [argumentPieces, written_cons, written_cons, ih, ← List.append_assoc]
          · rfl
          · simp

/-- A call is written with its arguments and the parenthesis at the end. -/
theorem written_callPieces (opening : List Char) (args : List (List Char)) :
    writtenLine (callPieces opening args) =
      opening ++ (List.intercalate ", ".toList (args.map quote) ++ [')']) := by
  simp only [callPieces, List.cons_append, written_cons, written_append, written_argumentPieces,
    written_nil, Piece.written, List.append_nil]

/-- The pieces of a locator are what is written of it. -/
theorem written_locatorPieces (on : Locator) : writtenLine on.pieces = on.render := by
  cases on <;>
  · unfold Locator.pieces Locator.render
    simp only [written_cons, written_nil, Piece.written, List.append_assoc, List.append_nil]

/-- The pieces of a call on an element are what is written of it. -/
theorem written_onElementPieces (on : Locator) (method : String) (args : List (List Char)) :
    writtenLine (onElementPieces on method args) = onElement on method args := by
  cases on <;>
  · unfold onElementPieces onElement
    simp only [written_append, written_callPieces, written_locatorPieces, List.append_assoc,
      List.cons_append, List.nil_append]

/-- The pieces of a statement are written as its expression. -/
theorem written_statementPieces (s : Statement) : writtenLine s.pieces = s.expression := by
  cases s <;>
  · unfold Statement.pieces Statement.expression
    simp only [written_callPieces, written_onElementPieces, written_locatorPieces, written_append,
      written_cons, written_nil, Piece.written, List.map_singleton, List.intercalate_singleton,
      List.append_assoc, List.cons_append, List.nil_append, List.append_nil]

/-- The pieces of a statement are its line. -/
theorem written_linePieces (s : Statement) : writtenLine s.linePieces = s.line := by
  unfold Statement.linePieces Statement.line
  simp only [List.cons_append, written_cons, written_append, written_statementPieces, written_nil,
    Piece.written, List.append_assoc, List.append_nil]

/-! ### Statements are tidy -/

/-- The text is an identifier: letters, digits and underscores, and no digit first. -/
def IsIdentifier (cs : List Char) : Prop :=
  ∃ c rest, cs = c :: rest ∧ c.isDigit = false ∧ cs.all isNameChar = true

/-- A text is an identifier if it consists of the characters of names and begins with no digit. -/
theorem isIdentifier_cons_iff {c : Char} {rest : List Char} :
    IsIdentifier (c :: rest) ↔ c.isDigit = false ∧ (c :: rest).all isNameChar = true := by
  constructor
  · rintro ⟨_, _, hcs, hdigit, hall⟩
    cases hcs
    exact ⟨hdigit, hall⟩
  · exact fun ⟨hdigit, hall⟩ => ⟨c, rest, rfl, hdigit, hall⟩

instance : DecidablePred IsIdentifier
  | [] => .isFalse fun ⟨_, _, h, _⟩ => nomatch h
  | _ :: _ => decidable_of_iff' _ isIdentifier_cons_iff

/-- **The method for an action that is not recognized is an identifier**, whatever the action. -/
theorem methodName_isIdentifier (action : List Char) : IsIdentifier (methodName action) := by
  have hkept : (action.filter isNameChar).all isNameChar = true :=
    List.all_eq_true.2 fun c hc => (List.mem_filter.1 hc).2
  unfold methodName
  dsimp only
  split
  · exact ⟨'a', "ction_".toList, rfl, by decide, by decide⟩
  · next c rest hc =>
    rw [hc] at hkept ⊢
    by_cases hdigit : c.isDigit = true
    · rw [if_pos hdigit]
      exact ⟨'a', "ction_".toList ++ c :: rest, rfl, by decide, by
        rw [List.all_append, hkept]
        decide⟩
    · rw [if_neg hdigit]
      exact ⟨c, rest, rfl, by simpa using hdigit, hkept⟩

/-- What may stand in the name of a method opens no literal and no comment, and ends no line. -/
theorem isPlain_of_isNameChar {c : Char} (h : isNameChar c = true) : isPlain c = true := by
  have hne : ∀ d, isNameChar d = false → (c == d) = false := by
    intro d hd
    refine beq_false_of_ne ?_
    rintro rfl
    exact absurd h (by rw [hd]; exact Bool.false_ne_true)
  simp only [isPlain, opensLiteral, isLineEnd, bne, hne _ (show isNameChar '\'' = false by decide),
    hne _ (show isNameChar '"' = false by decide), hne _ (show isNameChar '\x60' = false by decide),
    hne _ (show isNameChar '/' = false by decide), hne _ (show isNameChar '\n' = false by decide),
    hne _ (show isNameChar '\r' = false by decide),
    hne _ (show isNameChar '\u2028' = false by decide),
    hne _ (show isNameChar '\u2029' = false by decide)]
  rfl

/-- No argument ends the line. -/
theorem inline_argumentPieces (args : List (List Char)) :
    (argumentPieces args).all Piece.isInline = true := by
  induction args with
  | nil => rfl
  | cons a rest ih =>
      cases rest with
      | nil => rfl
      | cons b rest =>
          rw [argumentPieces, List.all_cons, List.all_cons, ih]
          · rfl
          · simp

/-- A call does not end the line, whatever its arguments are. -/
theorem inline_callPieces {opening : List Char} (h : opening.all isPlain = true)
    (args : List (List Char)) : (callPieces opening args).all Piece.isInline = true := by
  rw [callPieces, List.all_append, List.all_cons, inline_argumentPieces, Piece.isInline, h]
  rfl

/-- A locator does not end the line, whatever the target is. -/
theorem inline_locatorPieces (on : Locator) : on.pieces.all Piece.isInline = true := by
  cases on <;> rfl

/-- A call on an element does not end the line. -/
theorem inline_onElementPieces (on : Locator) {method : String}
    (h : method.toList.all isPlain = true) (args : List (List Char)) :
    (onElementPieces on method args).all Piece.isInline = true := by
  have hpage : ("page.".toList ++ method.toList ++ ['(']).all isPlain = true := by
    rw [List.all_append, List.all_append, h]
    rfl
  have hdot : ('.' :: method.toList ++ ['(']).all isPlain = true := by
    rw [List.all_append, List.all_cons, h]
    rfl
  cases on with
  | selector s => exact inline_callPieces hpage (s :: args)
  | role r n =>
      rw [onElementPieces, List.all_append, inline_locatorPieces, inline_callPieces hdot]
      · rfl
      · simp
  | text t =>
      rw [onElementPieces, List.all_append, inline_locatorPieces, inline_callPieces hdot]
      · rfl
      · simp

/-- The method of a statement that is named after an action. -/
def Statement.method? : Statement → Option (List Char)
  | .call method _ _ => some method
  | _ => none

/-- A statement does not end the line if the name of its method does not. -/
theorem inline_statementPieces {s : Statement}
    (h : ∀ method, s.method? = some method → method.all isPlain = true) :
    s.pieces.all Piece.isInline = true := by
  cases s with
  | goto url => exact inline_callPieces rfl [url]
  | click on => exact inline_onElementPieces on rfl []
  | fill on data => exact inline_onElementPieces on rfl [data]
  | visible on =>
      rw [Statement.pieces, List.all_append, List.all_cons, inline_locatorPieces]
      rfl
  | containsText on text =>
      rw [Statement.pieces]
      rw [List.all_append, List.all_cons, inline_locatorPieces, inline_callPieces rfl]
      rfl
  | waitFor selector => exact inline_callPieces rfl [selector]
  | select on data => exact inline_onElementPieces on rfl [data]
  | hover on => exact inline_onElementPieces on rfl []
  | call method target data =>
      refine inline_callPieces ?_ (target :: data.toList)
      rw [List.all_append, List.all_append, h method rfl]
      rfl

/-- Only an action that is not recognized gives its name to a method. -/
theorem method?_ofStep {strategy : Strategy} {s : Step} {method : List Char}
    (h : (Statement.ofStep strategy s).method? = some method) :
    ∃ action, method = methodName action := by
  have hassertion : ∀ on data, (assertion on data).method? = none := by
    intro on data
    unfold assertion
    dsimp only
    split
    · rfl
    · split
      · split <;> rfl
      · rfl
  unfold Statement.ofStep at h
  dsimp only at h
  split at h
  case h_5 => simp [hassertion] at h
  case h_9 name _ => exact ⟨name.toList, (Option.some.inj h).symm⟩
  all_goals cases h

/-- **The statement of a step is a tidy line**, whatever the step. -/
theorem tidy_linePieces (strategy : Strategy) (s : Step) :
    Tidy (Statement.ofStep strategy s).linePieces := by
  have hmethod : ∀ method, (Statement.ofStep strategy s).method? = some method →
      method.all isPlain = true := by
    intro method h
    obtain ⟨action, rfl⟩ := method?_ofStep h
    obtain ⟨_, _, -, -, hall⟩ := methodName_isIdentifier action
    exact List.all_eq_true.2 fun c hc => isPlain_of_isNameChar (List.all_eq_true.1 hall c hc)
  refine tidy_of_inline ?_
  rw [Statement.linePieces, List.all_append, List.all_cons, inline_statementPieces hmethod]
  rfl

/-! ### The lines of a file -/

/-- The pieces of the first line. -/
def headerPieces : Language → List Piece
  | .typeScript => [.code "import \x7b test, expect \x7d from ".toList,
      .literal "@playwright/test".toList, .code [';']]
  | .javaScript => [.code "const \x7b test, expect \x7d = require(".toList,
      .literal "@playwright/test".toList, .code ");".toList]

/-- The pieces of the line with the tags. -/
def tagPieces (tags : TagSet) : List Piece := [.comment (" Tags: ".toList ++ tags.text.toList)]

/-- The pieces of the line that opens the test. -/
def openPieces (name : String) : List Piece :=
  [.code "test(".toList, .literal name.toList, .code ", async (\x7b page \x7d) => \x7b".toList]

/-- The pieces of the line that closes the test. -/
def closePieces : List Piece := [.code "\x7d);".toList]

/-- The pieces of the comment above a step. -/
def stepPieces (number : Nat) (s : Step) : List Piece :=
  [.code "  ".toList, .comment (" Step ".toList ++ Decimal.digitChars number ++ ": ".toList ++
    (commentText s.description).toList)]

/-- The pieces of the comment above the statement of a step whose action is not recognized. -/
def remarkPieces? (s : Step) : Option (List Piece) :=
  match s.action with
  | .other name =>
    some [.code "  ".toList, .comment (" Unrecognized action '".toList ++
      (commentText name).toList ++ "': ".toList ++ (commentText s.description).toList)]
  | _ => none

/-- The lines of steps in pieces: for each step a comment, a second one if its action is not
recognized, and its statement. -/
def stepsSheet (strategy : Strategy) (number : Nat) : List Step → List (List Piece)
  | [] => []
  | s :: rest =>
    stepPieces number s :: (remarkPieces? s).toList ++
      [(Statement.ofStep strategy s).linePieces] ++ stepsSheet strategy (number + 1) rest

/-- **The lines of a file in pieces**: the header, an empty line, a comment if there are tags, the
line that opens the test, the lines of the steps and the line that closes the test. -/
def sheet (o : SpecOptions) (s : Scenario) : List (List Piece) :=
  headerPieces o.language :: [] :: (if s.tags.isEmpty then [] else [tagPieces s.tags]) ++
    openPieces s.name :: stepsSheet o.strategy 1 s.steps ++ [closePieces]

/-- The pieces of a step are the line that announces it. -/
theorem written_stepPieces (number : Nat) (s : Step) :
    writtenLine (stepPieces number s) = stepLine number s := by
  unfold stepPieces stepLine
  simp only [written_cons, written_nil, Piece.written, List.append_assoc, List.append_nil]
  rfl

/-- The pieces of a remark are what is written of it, if there is one. -/
theorem written_remarkPieces (s : Step) : (remarkPieces? s).map writtenLine = remark? s := by
  cases haction : s.action with
  | other name =>
      simp only [remarkPieces?, remark?, haction, Option.map_some, written_cons, written_nil,
        Piece.written, List.append_assoc, List.append_nil]
      rfl
  | _ => simp only [remarkPieces?, remark?, haction, Option.map_none]

/-- The pieces of steps are their lines. -/
theorem written_stepsSheet (strategy : Strategy) (number : Nat) (steps : List Step) :
    (stepsSheet strategy number steps).map writtenLine = stepsLines strategy number steps := by
  induction steps generalizing number with
  | nil => rfl
  | cons s rest ih =>
      have hremark : (remarkPieces? s).toList.map writtenLine = (remark? s).toList := by
        rw [← written_remarkPieces]
        cases remarkPieces? s <;> rfl
      rw [stepsSheet, stepsLines, stepLines, List.map_append, ih, List.map_append, List.map_cons,
        written_stepPieces, hremark, List.map_singleton, written_linePieces]

/-- The pieces of the header are what is written of it. -/
theorem written_headerPieces (l : Language) : writtenLine (headerPieces l) = header l := by
  cases l <;> rfl

/-- The pieces of the opening of a test are its line. -/
theorem written_openPieces (name : String) : writtenLine (openPieces name) = openLine name := by
  unfold openPieces openLine
  simp only [written_cons, written_nil, Piece.written, List.append_assoc, List.append_nil]

/-- **The sheet is written as the lines of the file.** -/
theorem written_sheet (o : SpecOptions) (s : Scenario) :
    (sheet o s).map writtenLine = lines o s := by
  have htags : (if s.tags.isEmpty then [] else [tagPieces s.tags]).map writtenLine =
      if s.tags.isEmpty then [] else [tagLine s.tags] := by
    split
    · rfl
    · rw [List.map_singleton, tagPieces, written_cons, written_nil, List.append_nil]
      rfl
  rw [sheet, lines, testLines]
  simp only [List.map_append, List.map_cons, htags, written_headerPieces, written_openPieces,
    written_stepsSheet, written_nil, List.map_nil, List.cons_append, List.append_assoc]
  rfl

/-! ### Comments -/

/-- The characters that end a line are blank. -/
theorem isBlank_of_isLineEnd {c : Char} (h : isLineEnd c = true) : Text.isBlank c = true := by
  simp only [isLineEnd, Bool.or_eq_true, beq_iff_eq] at h
  rcases h with ((rfl | rfl) | rfl) | rfl <;> rfl

/-- Joined texts have a line end exactly if one of them has, the separator having none. -/
theorem any_intercalate {p : Char → Bool} {sep : List Char} (hsep : sep.any p = false)
    (texts : List (List Char)) : (List.intercalate sep texts).any p = texts.any (·.any p) := by
  induction texts with
  | nil => rfl
  | cons first rest ih =>
      cases rest with
      | nil => simp
      | cons second rest =>
          rw [List.intercalate_cons_cons, List.any_append, List.any_append, hsep, ih,
            Bool.or_false]
          rfl

/-- **A text that was put on one line has no line end**, whatever the text. -/
theorem commentText_any_isLineEnd (s : String) : (commentText s).toList.any isLineEnd = false := by
  rw [commentText, onOneLine]
  rw [String.toList_intercalate, any_intercalate (by decide), List.map_map, List.any_map,
    List.any_eq_false]
  intro word hword h
  simp only [Function.comp_apply, String.toList_ofList] at h
  obtain ⟨c, hc, hend⟩ := List.any_eq_true.1 h
  have hblank := Text.not_isBlank_of_mem_words hword c hc
  rw [isBlank_of_isLineEnd hend] at hblank
  cases hblank

/-- No digit ends a line. -/
theorem digitChars_any_isLineEnd (n : Nat) : (Decimal.digitChars n).any isLineEnd = false := by
  rw [List.any_eq_false]
  intro c hc hend
  have hdigit := Decimal.isDigit_of_mem_digitChars hc
  simp only [isLineEnd, Bool.or_eq_true, beq_iff_eq] at hend
  rcases hend with ((rfl | rfl) | rfl) | rfl <;> exact absurd hdigit (by decide)

/-- The line that announces a step is tidy, whatever its text. -/
theorem tidy_stepPieces (number : Nat) (s : Step) : Tidy (stepPieces number s) := by
  refine ⟨rfl, ?_, rfl⟩
  rw [List.any_append, List.any_append, List.any_append, digitChars_any_isLineEnd,
    commentText_any_isLineEnd]
  rfl

/-- A remark is tidy, whatever it remarks. -/
theorem tidy_remarkPieces {s : Step} {ps : List Piece} (h : remarkPieces? s = some ps) :
    Tidy ps := by
  rw [remarkPieces?] at h
  split at h
  · cases h
    refine ⟨rfl, ?_, rfl⟩
    rw [List.any_append, List.any_append, List.any_append, commentText_any_isLineEnd,
      commentText_any_isLineEnd]
    rfl
  · cases h

/-- **The lines of steps are tidy**, whatever the steps. -/
theorem tidy_of_mem_stepsSheet {strategy : Strategy} {number : Nat} {steps : List Step}
    {ps : List Piece} (h : ps ∈ stepsSheet strategy number steps) : Tidy ps := by
  induction steps generalizing number with
  | nil => cases h
  | cons s rest ih =>
      rw [stepsSheet, List.mem_append, List.mem_append, List.mem_cons, Option.mem_toList,
        List.mem_singleton] at h
      rcases h with ((rfl | h) | rfl) | h
      · exact tidy_stepPieces number s
      · exact tidy_remarkPieces h
      · exact tidy_linePieces strategy s
      · exact ih h

/-- No tag has a line end in it. -/
def TagsOnOneLine (s : Scenario) : Prop := ∀ tag ∈ s.tags.names, tag.toList.any isLineEnd = false

/-- No line ends in the text of tags that stay on one line. -/
theorem tags_any_isLineEnd {s : Scenario} :
    s.tags.text.toList.any isLineEnd = false ↔ TagsOnOneLine s := by
  rw [TagSet.text, TagsOnOneLine]
  rw [String.toList_intercalate, any_intercalate (by decide), List.any_map, List.any_eq_false]
  simp

/-- The header is tidy. -/
theorem tidy_headerPieces (l : Language) : Tidy (headerPieces l) := by
  cases l <;> exact ⟨rfl, rfl, trivial⟩

/-- Every line of the sheet is tidy if no tag has a line end in it. -/
theorem tidy_of_mem_sheet {o : SpecOptions} {s : Scenario} {ps : List Piece}
    (htags : TagsOnOneLine s) (h : ps ∈ sheet o s) : Tidy ps := by
  have htag : Tidy (tagPieces s.tags) := by
    refine ⟨?_, rfl⟩
    rw [List.any_append, tags_any_isLineEnd.2 htags]
    rfl
  rw [sheet, List.mem_append, List.mem_append, List.mem_cons, List.mem_cons, List.mem_cons,
    List.mem_singleton] at h
  rcases h with (((rfl | rfl | h) | rfl | h) | rfl)
  · exact tidy_headerPieces o.language
  · trivial
  · split at h
    · cases h
    · rw [List.mem_singleton.1 h]
      exact htag
  · exact ⟨rfl, rfl, trivial⟩
  · exact tidy_of_mem_stepsSheet h
  · exact ⟨rfl, trivial⟩

/-- The script that a file is read as, if every line of its sheet is tidy. -/
theorem scriptLines_compile_of_tidy {o : SpecOptions} {s : Scenario}
    (h : ∀ ps ∈ sheet o s, Tidy ps) : scriptLines (compile o s) = (sheet o s).map markedLine := by
  rw [scriptLines, compile, String.toList_ofList, ← written_sheet, List.flatMap_map]
  exact cutLines_written h

/-- **A spec file is read as its sheet exactly if no tag has a line end in it.** -/
theorem scriptLines_compile_iff (o : SpecOptions) (s : Scenario) :
    scriptLines (compile o s) = (sheet o s).map markedLine ↔ TagsOnOneLine s := by
  constructor
  · intro h
    rw [← tags_any_isLineEnd]
    by_cases hempty : s.tags.isEmpty = true
    · have hnames : s.tags.names = [] := List.isEmpty_iff.1 hempty
      rw [TagSet.text, hnames]
      rfl
    · have hmem : markedLine (tagPieces s.tags) ∈ scriptLines (compile o s) := by
        rw [h]
        refine List.mem_map_of_mem ?_
        simp [sheet, hempty]
      rw [List.any_eq_false]
      intro c hc hend
      have hmark : (c, Region.comment) ∈ markedLine (tagPieces s.tags) := by
        simp [markedLine, tagPieces, Piece.marks, Piece.written, Piece.region, hc]
      have hno := endsLine_of_mem_cutLines hmem _ hmark
      rw [endsLine, hend] at hno
      cases hno
  · exact fun h => scriptLines_compile_of_tidy fun _ hps => tidy_of_mem_sheet h hps

/-! ### What two files have in common -/

/-- A line without its comment. -/
def uncommented (l : List Mark) : List Mark := l.filter fun x => x.2 != .comment

/-- A step without its description. -/
def undescribed (s : Step) : Step := { s with description := "" }

/-- The scenarios differ in name, tags and descriptions alone; either both have tags or neither
has. -/
structure SameButWording (r s : Scenario) : Prop where
  tags : r.tags.isEmpty = s.tags.isEmpty
  steps : r.steps.map undescribed = s.steps.map undescribed

/-- Without its comment, a line is read as its other pieces. -/
theorem uncommented_markedLine (ps : List Piece) :
    uncommented (markedLine ps) = markedLine (ps.filter fun p => p.region != .comment) := by
  induction ps with
  | nil => rfl
  | cons p ps ih =>
      have hregion : ∀ x ∈ p.marks, (x.2 != .comment) = (p.region != .comment) := by
        intro x hx
        obtain ⟨c, -, rfl⟩ := List.mem_map.1 hx
        rfl
      have hsplit : uncommented (markedLine (p :: ps)) =
          p.marks.filter (fun x => x.2 != .comment) ++ uncommented (markedLine ps) := by
        rw [markedLine, List.flatMap_cons, uncommented, List.filter_append]
        rfl
      rw [hsplit, List.filter_congr hregion, ih, List.filter_cons]
      cases p.region != .comment with
      | true =>
          rw [List.filter_eq_self.2 fun _ _ => rfl]
          rfl
      | false =>
          rw [List.filter_eq_nil_iff.2 fun _ _ => Bool.false_ne_true]
          rfl

/-- A comment behind an indent leaves the indent. -/
theorem uncommented_indented (text : List Char) :
    uncommented (markedLine [.code "  ".toList, .comment text]) =
      markedLine [.code "  ".toList] :=
  uncommented_markedLine [.code "  ".toList, .comment text]

/-- **Descriptions are in comments alone.** -/
theorem uncommented_stepsSheet (strategy : Strategy) (number : Nat) (steps : List Step) :
    (stepsSheet strategy number steps).map (fun ps => uncommented (markedLine ps)) =
      (stepsSheet strategy number (steps.map undescribed)).map
        fun ps => uncommented (markedLine ps) := by
  induction steps generalizing number with
  | nil => rfl
  | cons s rest ih =>
      have hstep : uncommented (markedLine (stepPieces number s)) =
          uncommented (markedLine (stepPieces number (undescribed s))) := by
        rw [stepPieces, stepPieces, uncommented_indented, uncommented_indented]
      have hremark : (remarkPieces? s).toList.map (fun ps => uncommented (markedLine ps)) =
          (remarkPieces? (undescribed s)).toList.map fun ps => uncommented (markedLine ps) := by
        cases haction : s.action with
        | other name =>
            simp only [remarkPieces?, undescribed, haction, Option.toList_some, List.map_singleton,
              uncommented_indented]
        | _ => simp only [remarkPieces?, undescribed, haction]
      rw [List.map_cons, stepsSheet, stepsSheet, List.map_append, List.map_append, List.map_append,
        List.map_append, List.map_cons, List.map_cons, hstep, hremark, ih]
      rfl

/-- **Outside its comments a file is fixed** by its options, whether there are tags, the name and
what the steps are without their descriptions; and the name has a literal of its own. -/
theorem uncommented_sheet (o : SpecOptions) (s : Scenario) :
    (sheet o s).map (fun ps => uncommented (markedLine ps)) =
      (markedLine (headerPieces o.language) :: [] :: if s.tags.isEmpty then [] else [[]]) ++
        markedLine (openPieces s.name) ::
          ((stepsSheet o.strategy 1 (s.steps.map undescribed)).map
            (fun ps => uncommented (markedLine ps)) ++ [markedLine closePieces]) := by
  have hheader : uncommented (markedLine (headerPieces o.language)) =
      markedLine (headerPieces o.language) := by
    have hpieces : (headerPieces o.language).filter (fun p => p.region != .comment) =
        headerPieces o.language := by
      cases o.language <;> rfl
    rw [uncommented_markedLine, hpieces]
  have htags : (if s.tags.isEmpty then [] else [tagPieces s.tags]).map
      (fun ps => uncommented (markedLine ps)) = if s.tags.isEmpty then [] else [[]] := by
    split
    · rfl
    · rw [List.map_singleton, uncommented_markedLine]
      rfl
  have hopen : uncommented (markedLine (openPieces s.name)) = markedLine (openPieces s.name) := by
    rw [uncommented_markedLine]
    rfl
  have hclose : uncommented (markedLine closePieces) = markedLine closePieces := by
    rw [uncommented_markedLine]
    rfl
  have hempty : uncommented (markedLine []) = [] := rfl
  have hsteps := uncommented_stepsSheet o.strategy 1 s.steps
  rw [sheet]
  simp only [List.map_append, List.map_cons, List.map_nil, hheader, htags, hopen, hclose, hempty,
    hsteps, List.cons_append, List.append_assoc]

/-- **The text of a scenario stays text.** A spec file is read line by line as its sheet, every
literal a literal and every comment a comment, exactly if no tag has a line end in it; everything
else in the scenario is arbitrary. A method that is named after an action is an identifier. And if
two scenarios differ in name, tags and descriptions alone, and no tag has a line end in it, then
outside comments their files differ in the literal of the name alone. -/
theorem compile_contained (o : SpecOptions) (s : Scenario) :
    (scriptLines (compile o s) = (sheet o s).map markedLine ↔ TagsOnOneLine s) ∧
      (∀ action, IsIdentifier (methodName action)) ∧
      ∀ r, SameButWording r s → TagsOnOneLine r → TagsOnOneLine s → ∃ before after,
        (scriptLines (compile o r)).map uncommented =
          before ++ markedLine (openPieces r.name) :: after ∧
        (scriptLines (compile o s)).map uncommented =
          before ++ markedLine (openPieces s.name) :: after := by
  refine ⟨scriptLines_compile_iff o s, methodName_isIdentifier, ?_⟩
  intro r hsame hr hs
  have hlines : ∀ x, TagsOnOneLine x → (scriptLines (compile o x)).map uncommented =
      (sheet o x).map fun ps => uncommented (markedLine ps) := by
    intro x hx
    rw [(scriptLines_compile_iff o x).2 hx, List.map_map]
    rfl
  refine ⟨_, _, (hlines r hr).trans (uncommented_sheet o r), ?_⟩
  rw [hlines s hs, uncommented_sheet, hsame.tags, hsame.steps]

/-- A scenario whose words are harmless. -/
def plainSearch : Scenario :=
  ⟨"s1", "Search", [⟨.fill, "#q", some "tea", "Search"⟩, ⟨.other "drag it", "#x", none, ""⟩],
    .ofList ["smoke"], none⟩

/-- A scenario that differs from it in wording alone; the words are out for trouble. -/
def wordySearch : Scenario :=
  ⟨"s2", "'); evil(); ('
", [⟨.fill, "#q", some "tea", "*/ evil(); evil();"⟩,
    ⟨.other "drag it", "#x", none, "
evil();"⟩], .ofList ["`; evil();", "*/"], none⟩

/-- A scenario with a tag that is out for trouble and has a line end in it. -/
def evilTag : Scenario := ⟨"s3", "Search", [], .ofList ["x
await evil();"], none⟩

/-- The wordy file differs from the plain one in comments and the literal of the name alone. But
the tag with a line end in it gets a line of code into its file. -/
theorem compile_contained_wordySearch :
    (∃ before after,
      (scriptLines (compile .default plainSearch)).map uncommented =
        before ++ markedLine (openPieces plainSearch.name) :: after ∧
      (scriptLines (compile .default wordySearch)).map uncommented =
        before ++ markedLine (openPieces wordySearch.name) :: after) ∧
    scriptLines (compile .default evilTag) ≠ (sheet .default evilTag).map markedLine ∧
      "await evil();".toList.map (·, Region.code) ∈ scriptLines (compile .default evilTag) := by
  refine ⟨?_, ?_, by decide +kernel⟩
  · exact (compile_contained .default wordySearch).2.2 plainSearch ⟨by decide, by decide⟩
      (by unfold TagsOnOneLine; decide) (by unfold TagsOnOneLine; decide)
  · rw [Ne, (compile_contained .default evilTag).1]
    rw [TagsOnOneLine]
    decide

end Scenarist.Spec
