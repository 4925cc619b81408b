import Scenarist.Spec.Locator
import Scenarist.Scenario.Step
import Scenarist.Text.Search

/-!
# Statements

What a step asks of the page, as a statement of a spec file. A step with an action that is not
recognized becomes a call of a method named after the action, below a comment that says so.
-/

namespace Scenarist.Spec

/-- What one step asks of the page. -/
inductive Statement where
  | goto (url : List Char)
  | click (on : Locator)
  | fill (on : Locator) (data : List Char)
  | visible (on : Locator)
  | containsText (on : Locator) (text : List Char)
  | waitFor (selector : List Char)
  | select (on : Locator) (data : List Char)
  | hover (on : Locator)
  | call (method : List Char) (target : List Char) (data : Option (List Char))
deriving DecidableEq, Repr

/-- The first span between two quotes of one kind. -/
def quotedSpan? : List Char → Option (List Char)
  | [] => none
  | c :: cs =>
    if isQuote c then
      match cs.span (· != c) with
      | (inner, _ :: _) => some inner
      | (_, []) => quotedSpan? cs
    else quotedSpan? cs

/-- The assertion that the data of an `expect` step stands for: a text if it speaks of a text
and quotes one, and not of visibility; visibility otherwise. -/
def assertion (on : Locator) (data : List Char) : Statement :=
  let low := data.map Char.toLower
  if Text.occursIn "visible".toList low then .visible on
  else if Text.occursIn "text".toList low then
    match quotedSpan? data with
    | some text => .containsText on text
    | none => .visible on
  else .visible on

/-- The character may stand in the name of a method. -/
def isNameChar (c : Char) : Bool := c.isAlphanum || c == '_'

/-- The name of a method for an action that is not recognized. -/
def methodName (action : List Char) : List Char :=
  let kept := action.filter isNameChar
  match kept with
  | [] => "action_".toList
  | c :: _ => if c.isDigit then "action_".toList ++ kept else kept

/-- What a step asks of the page. -/
def Statement.ofStep (strategy : Strategy) (s : Step) : Statement :=
  let data := (s.data.getD "").toList
  let on := Locator.resolve strategy s.target
  match s.action with
  | .goto => .goto s.target.toList
  | .click => .click on
  | .fill => .fill on data
  | .type => .fill on data
  | .expect => assertion on data
  | .wait => .waitFor s.target.toList
  | .select => .select on data
  | .hover => .hover on
  | .other name => .call (methodName name.toList) s.target.toList (s.data.map String.toList)

/-- A method of the page for a selector, of the locator otherwise; `args` follow the selector. -/
def onElement (on : Locator) (method : String) (args : List (List Char)) : List Char :=
  match on with
  | .selector selector =>
    "page.".toList ++ method.toList ++ '(' ::
      List.intercalate ", ".toList ((selector :: args).map quote) ++ [')']
  | on =>
    on.render ++ '.' :: method.toList ++ '(' ::
      List.intercalate ", ".toList (args.map quote) ++ [')']

/-- The expression of a statement. -/
def Statement.expression : Statement → List Char
  | .goto url => "page.goto(".toList ++ quote url ++ [')']
  | .click on => onElement on "click" []
  | .fill on data => onElement on "fill" [data]
  | .visible on => "expect(".toList ++ on.render ++ ").toBeVisible()".toList
  | .containsText on text =>
    "expect(".toList ++ on.render ++ ").toContainText(".toList ++ quote text ++ [')']
  | .waitFor selector => "page.waitForSelector(".toList ++ quote selector ++ [')']
  | .select on data => onElement on "selectOption" [data]
  | .hover on => onElement on "hover" []
  | .call method target data =>
    "page.".toList ++ method ++ '(' ::
      List.intercalate ", ".toList ((target :: data.toList).map quote) ++ [')']

/-- The line of a statement. -/
def Statement.line (s : Statement) : List Char := "  await ".toList ++ s.expression ++ [';']

/-- The comment above the statement of a step whose action is not recognized. -/
def remark? (s : Step) : Option (List Char) :=
  match s.action with
  | .other name =>
    some ("  // Unrecognized action '".toList ++ (commentText name).toList ++ "': ".toList ++
      (commentText s.description).toList)
  | _ => none

end Scenarist.Spec
