import Scenarist.Proofs.Spec.Expression
import Scenarist.Proofs.Spec.Target

/-!
# What a Spec File Says

The test of a spec file, read as a script: its name is the name of the scenario, and its body
awaits one expression for each step, in order, which is the call that the action of the step
prescribes (`prescribed`). Every text of the scenario that goes into a call comes back as the
value of a literal, and no text has an influence on what else is read.

## Main results

* `scans_expression`: the code of a statement scans as the tokens of its call.
* `scans_testText`: and the text of a test as the tokens of a test.
* `compile_denotes`: **the statements of a spec file denote the steps**.
-/

namespace Scenarist.Spec

/-! ### Calls -/

/-- The page of a test. -/
def page : Expr := .name "page".toList

/-- The call of a method. -/
def Expr.invoke (e : Expr) (method : String) (arguments : List Expr) : Expr :=
  .call (.member e method.toList) arguments

/-- The expression that picks an element. -/
def Locator.expr : Locator → Expr
  | .role r n => page.invoke "getByRole" [.literal r, .record [("name".toList, .literal n)]]
  | .text t => page.invoke "getByText" [.literal t]
  | .selector s => page.invoke "locator" [.literal s]

/-- The call of a method on an element: of the page if it is picked by a selector, which is then
the first argument, and of the locator otherwise. -/
def Locator.invoke (on : Locator) (method : String) (arguments : List Expr) : Expr :=
  match on with
  | .selector s => page.invoke method (.literal s :: arguments)
  | on => on.expr.invoke method arguments

/-- The assertion on an element, with the text it shall contain, if any. -/
def Locator.expectation (on : Locator) (text : Option (List Char)) : Expr :=
  let subject := Expr.call (.name "expect".toList) [on.expr]
  match text with
  | some text => subject.invoke "toContainText" [.literal text]
  | none => subject.invoke "toBeVisible" []

/-- The text that an assertion is about: the first quoted one, if the data speak of a text and
not of visibility. -/
def assertedText? (data : List Char) : Option (List Char) :=
  if Text.occursIn "visible".toList (data.map Char.toLower) then none
  else if Text.occursIn "text".toList (data.map Char.toLower) then quotedSpan? data
  else none

/-- **The call that a step prescribes.** -/
def prescribed (strategy : Strategy) (s : Step) : Expr :=
  let on := Locator.resolve strategy s.target
  let target := Expr.literal s.target.toList
  let data := (s.data.getD "").toList
  match s.action with
  | .goto => page.invoke "goto" [target]
  | .click => on.invoke "click" []
  | .fill => on.invoke "fill" [.literal data]
  | .type => on.invoke "fill" [.literal data]
  | .expect => on.expectation (assertedText? data)
  | .wait => page.invoke "waitForSelector" [target]
  | .select => on.invoke "selectOption" [.literal data]
  | .hover => on.invoke "hover" []
  | .other name =>
    .call (.member page (methodName name.toList))
      (target :: (s.data.map fun d => Expr.literal d.toList).toList)

/-- The call that a statement stands for. -/
def Statement.expr : Statement → Expr
  | .goto url => page.invoke "goto" [.literal url]
  | .click on => on.invoke "click" []
  | .fill on data => on.invoke "fill" [.literal data]
  | .visible on => on.expectation none
  | .containsText on text => on.expectation (some text)
  | .waitFor selector => page.invoke "waitForSelector" [.literal selector]
  | .select on data => on.invoke "selectOption" [.literal data]
  | .hover on => on.invoke "hover" []
  | .call method target data =>
    .call (.member page method) ((target :: data.toList).map .literal)

theorem expr_assertion (on : Locator) (data : List Char) :
    (assertion on data).expr = on.expectation (assertedText? data) := by
  rw [assertion, assertedText?]
  split
  · rfl
  · split
    · cases quotedSpan? data <;> rfl
    · rfl

/-- The statement of a step stands for the call that the step prescribes. -/
theorem expr_ofStep (strategy : Strategy) (s : Step) :
    (Statement.ofStep strategy s).expr = prescribed strategy s := by
  rw [Statement.ofStep, prescribed]
  cases s.action with
  | expect => exact expr_assertion _ _
  | other name =>
      cases s.data with
      | none => rfl
      | some d => rfl
  | _ => rfl

/-! ### The code of a statement -/

/-- Literals with commas between them scan as arguments. -/
theorem scans_arguments (texts : List (List Char)) :
    Scans (List.intercalate ", ".toList (texts.map quote))
      (argumentsTokens (texts.map .literal)) := by
  induction texts with
  | nil => rfl
  | cons text rest ih =>
      cases rest with
      | nil =>
          rw [List.map_singleton, List.intercalate_singleton]
          exact scans_quote text
      | cons next rest =>
          have hcomma : Scans ", ".toList [.sign ','] := rfl
          rw [List.map_cons, List.map_cons, List.intercalate_cons_cons, ← List.map_cons]
          exact ((scans_quote text).append hcomma).append ih

/-- **The call of a method scans as its tokens**, behind code that ends with a dot. -/
theorem scans_invoke {code method : List Char} {e : Expr}
    (hcode : Scans code (e.tokens ++ [.sign '.'])) (h : IsIdentifier method)
    (texts : List (List Char)) :
    Scans (code ++ method ++ '(' :: List.intercalate ", ".toList (texts.map quote) ++ [')'])
      (Expr.call (.member e method) (texts.map .literal)).tokens := by
  have hclose : Scans [')'] [.sign ')'] := rfl
  have hcall := ((hcode.append (scans_identifier h)).append (scans_arguments texts)).append hclose
  simpa only [Expr.tokens, List.append_assoc, List.cons_append, List.nil_append] using hcall

/-- The code before a method of the page. -/
theorem scans_page : Scans "page.".toList (page.tokens ++ [.sign '.']) := rfl

theorem scans_render (on : Locator) : Scans on.render on.expr.tokens := by
  have hparenthesis : Scans [')'] [.sign ')'] := rfl
  cases on with
  | role r n =>
      have hopen : Scans "page.getByRole(".toList
        [.name "page".toList, .sign '.', .name "getByRole".toList, .sign '('] := rfl
      have hname : Scans ", \x7b name: ".toList
        [.sign ',', .sign '{', .name "name".toList, .sign ':'] := rfl
      have hclose : Scans " \x7d)".toList [.sign '}', .sign ')'] := rfl
      exact (((hopen.append (scans_quote r)).append hname).append (scans_quote n)).append hclose
  | text t =>
      have hopen : Scans "page.getByText(".toList
        [.name "page".toList, .sign '.', .name "getByText".toList, .sign '('] := rfl
      exact (hopen.append (scans_quote t)).append hparenthesis
  | selector s =>
      have hopen : Scans "page.locator(".toList
        [.name "page".toList, .sign '.', .name "locator".toList, .sign '('] := rfl
      exact (hopen.append (scans_quote s)).append hparenthesis

theorem scans_onElement (on : Locator) {method : String} (h : IsIdentifier method.toList)
    (texts : List (List Char)) :
    Scans (onElement on method texts) (on.invoke method (texts.map .literal)).tokens := by
  have hmethod : ∀ on : Locator, Scans (on.render ++ '.' :: method.toList ++
      '(' :: List.intercalate ", ".toList (texts.map quote) ++ [')'])
        (on.expr.invoke method (texts.map .literal)).tokens := by
    intro on
    have hdot : Scans ['.'] [.sign '.'] := rfl
    rw [List.append_cons on.render]
    exact scans_invoke ((scans_render on).append hdot) h texts
  cases on with
  | selector s => exact scans_invoke scans_page h (s :: texts)
  | role r n => exact hmethod (.role r n)
  | text t => exact hmethod (.text t)

/-- A method of the page with one argument. -/
theorem scans_pageCall {code : List Char} (method : String) (text : List Char)
    (hcode : Scans code (page.tokens ++ [.sign '.', .name method.toList, .sign '('])) :
    Scans (code ++ quote text ++ [')']) (page.invoke method [.literal text]).tokens := by
  have hclose : Scans [')'] [.sign ')'] := rfl
  exact (hcode.append (scans_quote text)).append hclose

/-- The tokens of an assertion, in the order in which its code is written. -/
theorem expectation_tokens (on : Locator) (method : String) (arguments : List Expr) :
    ((Expr.call (.name "expect".toList) [on.expr]).invoke method arguments).tokens =
      [Token.name "expect".toList, Token.sign '('] ++ on.expr.tokens ++
        [Token.sign ')', Token.sign '.', Token.name method.toList, Token.sign '('] ++
        argumentsTokens arguments ++ [Token.sign ')'] := by
  simp only [Expr.invoke, Expr.tokens, argumentsTokens, List.append_assoc, List.cons_append,
    List.nil_append]

theorem scans_expectation (on : Locator) : Scans ("expect(".toList ++ on.render)
    ([Token.name "expect".toList, Token.sign '('] ++ on.expr.tokens) := by
  have hopen : Scans "expect(".toList [.name "expect".toList, .sign '('] := rfl
  exact hopen.append (scans_render on)

/-- **The code of a statement scans as the tokens of its call.** -/
theorem scans_expression {s : Statement}
    (h : ∀ method, s.method? = some method → IsIdentifier method) :
    Scans s.expression s.expr.tokens := by
  cases s with
  | goto url => exact scans_pageCall "goto" url rfl
  | click on => exact scans_onElement on (by decide) []
  | fill on data => exact scans_onElement on (by decide) [data]
  | visible on =>
      have hend : Scans ").toBeVisible()".toList ([.sign ')', .sign '.',
        .name "toBeVisible".toList, .sign '('] ++ [.sign ')']) := rfl
      have htokens := expectation_tokens on "toBeVisible" []
      rw [argumentsTokens, List.append_nil, List.append_assoc] at htokens
      exact htokens ▸ (scans_expectation on).append hend
  | containsText on text =>
      have hmethod : Scans ").toContainText(".toList
        [.sign ')', .sign '.', .name "toContainText".toList, .sign '('] := rfl
      have hclose : Scans [')'] [.sign ')'] := rfl
      have hcode := (((scans_expectation on).append hmethod).append (scans_quote text)).append
        hclose
      exact expectation_tokens on "toContainText" [.literal text] ▸ hcode
  | waitFor selector => exact scans_pageCall "waitForSelector" selector rfl
  | select on data => exact scans_onElement on (by decide) [data]
  | hover on => exact scans_onElement on (by decide) []
  | call method target data => exact scans_invoke scans_page (h method rfl) (target :: data.toList)

/-! ### The lines of a test -/

/-- The text of a test: its lines, each with a line end. -/
def testText (strategy : Strategy) (s : Scenario) : List Char :=
  (testLines strategy s).flatMap fun l => l ++ ['\n']

/-- The text of a file ends with the text of its test. -/
theorem compile_eq_append_testText (o : SpecOptions) (s : Scenario) :
    ∃ before, (compile o s).toList = before ++ testText o.strategy s := by
  rw [compile, String.toList_ofList, lines, List.flatMap_append]
  exact ⟨_, rfl⟩

/-- The comments of a test scan as nothing. -/
theorem scans_indentedComment {text : List Char} (h : Tidy [.code "  ".toList, .comment text]) :
    Scans (writtenLine [.code "  ".toList, .comment text] ++ ['\n']) [] := by
  have hindent : Scans "  ".toList [] := rfl
  rw [written_cons, written_cons, written_nil, List.append_nil, List.append_assoc]
  exact hindent.append (scans_comment h.2.1)

theorem scans_stepLine (number : Nat) (s : Step) : Scans (stepLine number s ++ ['\n']) [] := by
  rw [← written_stepPieces]
  exact scans_indentedComment (tidy_stepPieces number s)

theorem scans_remark {s : Step} {line : List Char} (h : remark? s = some line) :
    Scans (line ++ ['\n']) [] := by
  rw [← written_remarkPieces] at h
  obtain ⟨pieces, hpieces, rfl⟩ := Option.map_eq_some_iff.1 h
  have htidy := tidy_remarkPieces hpieces
  rw [remarkPieces?] at hpieces
  split at hpieces
  · cases hpieces
    exact scans_indentedComment htidy
  · cases hpieces

/-- **The line of a step scans as a statement that awaits the call that it prescribes.** -/
theorem scans_line (strategy : Strategy) (s : Step) :
    Scans ((Statement.ofStep strategy s).line ++ ['\n'])
      (statementTokens (prescribed strategy s)) := by
  have hawait : Scans "  await ".toList [.name "await".toList] := rfl
  have hend : Scans ([';'] ++ ['\n']) [.sign ';'] := rfl
  have hmethod : ∀ method, (Statement.ofStep strategy s).method? = some method →
      IsIdentifier method := by
    intro method h
    obtain ⟨action, rfl⟩ := method?_ofStep h
    exact methodName_isIdentifier action
  have hcode := (hawait.append (scans_expression hmethod)).append hend
  rw [expr_ofStep, ← List.append_assoc] at hcode
  exact hcode

/-- A target that is out for trouble stays the value of a literal. -/
example : scan? (Statement.ofStep .css ⟨.fill, " '); evil('\\ ", some "\r\n", ""⟩).line =
    some [.name "await".toList, .name "page".toList, .sign '.', .name "fill".toList, .sign '(',
      .literal "'); evil('\\".toList, .sign ',', .literal "\r\n".toList, .sign ')', .sign ';'] := by
  decide +kernel

theorem scans_stepLines (strategy : Strategy) (number : Nat) (s : Step) :
    Scans ((stepLines strategy number s).flatMap fun l => l ++ ['\n'])
      (statementTokens (prescribed strategy s)) := by
  have hremark : Scans ((remark? s).toList.flatMap fun l => l ++ ['\n']) [] := by
    cases h : remark? s with
    | none => rfl
    | some line =>
        rw [Option.toList_some, List.flatMap_singleton]
        exact scans_remark h
  rw [stepLines, List.flatMap_append, List.flatMap_cons, List.flatMap_singleton]
  exact ((scans_stepLine number s).append hremark).append (scans_line strategy s)

/-- **The lines of steps scan as one statement for each step**, in order. -/
theorem scans_stepsLines (strategy : Strategy) (number : Nat) (steps : List Step) :
    Scans ((stepsLines strategy number steps).flatMap fun l => l ++ ['\n'])
      ((steps.map (prescribed strategy)).flatMap statementTokens) := by
  induction steps generalizing number with
  | nil => rfl
  | cons s rest ih =>
      rw [stepsLines, List.flatMap_append, List.map_cons, List.flatMap_cons]
      exact (scans_stepLines strategy number s).append (ih (number + 1))

/-- **The text of a test scans as the tokens of a test.** -/
theorem scans_testText (strategy : Strategy) (s : Scenario) :
    Scans (testText strategy s)
      (Test.tokens ⟨s.name.toList, s.steps.map (prescribed strategy)⟩) := by
  have htest : Scans "test(".toList [.name "test".toList, .sign '('] := rfl
  have hfunction : Scans (", async (\x7b page \x7d) => \x7b".toList ++ ['\n'])
    functionTokens := rfl
  have hclose : Scans (closeLine ++ ['\n']) [.sign '}', .sign ')', .sign ';'] := rfl
  have hopen := (htest.append (scans_quote s.name.toList)).append hfunction
  rw [← List.append_assoc] at hopen
  have htext := (hopen.append (scans_stepsLines strategy 1 s.steps)).append hclose
  rw [testText, testLines, List.flatMap_append, List.flatMap_cons, List.flatMap_singleton]
  exact htext

/-- Reads the text of a test. -/
def readTestText? (text : List Char) : Option Test := (scan? text).bind readTest?

/-- **A test says what its scenario prescribes**: it is read as a test with the name of the
scenario that awaits for each step, in order, the call that the step prescribes. -/
theorem readTestText?_testText (strategy : Strategy) (s : Scenario) :
    readTestText? (testText strategy s) =
      some ⟨s.name.toList, s.steps.map (prescribed strategy)⟩ := by
  rw [readTestText?, (scans_testText strategy s).scan?]
  exact readTest?_tokens _

/-- **The statements of a spec file denote the steps.** The file ends with the text of a test, and
this text is read as the name of the scenario and, for each step in order, the call that the step
prescribes, whatever characters the texts of the scenario hold. The method that is named after an
action is an identifier; the locator of an element is what its target picks, without the blanks
at the ends of the target; and the text of an assertion is the first quoted span of its data. -/
theorem compile_denotes (o : SpecOptions) (s : Scenario) :
    (∃ before, (compile o s).toList = before ++ testText o.strategy s) ∧
      readTestText? (testText o.strategy s) =
        some ⟨s.name.toList, s.steps.map (prescribed o.strategy)⟩ ∧
      (∀ action, IsIdentifier (methodName action)) ∧
      (∀ target on, Locator.resolve o.strategy target = on ↔
        ∃ cs, Stripped Text.isBlank target.toList cs ∧ Picks o.strategy cs on) ∧
      ∀ data span, quotedSpan? data = some span ↔ FirstSpan data span :=
  ⟨compile_eq_append_testText o s, readTestText?_testText o.strategy s, methodName_isIdentifier,
    fun _ _ => resolve_eq_iff, fun _ _ => quotedSpan?_eq_some_iff⟩

end Scenarist.Spec
