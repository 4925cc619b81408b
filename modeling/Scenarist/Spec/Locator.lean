import Scenarist.Spec.Literal
import Scenarist.Spec.Options
import Scenarist.Scenario.Action

/-!
# Locators

How the target of a step picks an element: by role and accessible name, by its text, or by a
selector. A role expression is `role=` and letters, then `[name=`, a name between two quotes
of one kind that the name does not hold, and `]`. A target that starts with `text=` picks by
text, without the quotes at its ends. All else is a selector.
-/

namespace Scenarist.Spec

/-- How an element is picked. -/
inductive Locator where
  | role (role name : List Char)
  | text (text : List Char)
  | selector (selector : List Char)
deriving DecidableEq, Repr

/-- The text is a quote of either kind. -/
def isQuote (c : Char) : Bool := c == '\'' || c == '"'

/-- Splits a text that ends in the quote `q` and a bracket, and holds no other `q`. -/
def quotedName? (q : Char) (cs : List Char) : Option (List Char) :=
  match cs.span (· != q) with
  | (name, [c, ']']) => if c = q then some name else none
  | _ => none

/-- Reads the name between two quotes of one kind and the closing bracket, to the end. -/
def closingName? : List Char → Option (List Char)
  | '\'' :: cs => quotedName? '\'' cs
  | '"' :: cs => quotedName? '"' cs
  | _ => none

/-- Reads a role expression: its role in lower case, and its name. -/
def roleExpression? (cs : List Char) : Option (List Char × List Char) := do
  let cs ← "role=".toList.isPrefixOf? cs
  let (role, cs) := cs.span Char.isAlpha
  if role.isEmpty then none
  else
    let cs ← "[name=".toList.isPrefixOf? cs
    let name ← closingName? cs
    return (role.map Char.toLower, name)

/-- The text without the quotes at either end. -/
def stripQuotes (cs : List Char) : List Char :=
  ((cs.dropWhile isQuote).reverse.dropWhile isQuote).reverse

/-- The locator of a target without blanks around it. -/
def Locator.ofTrimmed (strategy : Strategy) (cs : List Char) : Locator :=
  let byRole := if strategy = .roleFirst then roleExpression? cs else none
  match byRole with
  | some (r, n) => .role r n
  | none =>
    match "text=".toList.isPrefixOf? cs with
    | some t => .text (stripQuotes t)
    | none => .selector cs

/-- The locator of a target. -/
def Locator.resolve (strategy : Strategy) (target : String) : Locator :=
  .ofTrimmed strategy (Text.trim target.toList)

/-- The expression for a locator. -/
def Locator.render : Locator → List Char
  | .role r n =>
    "page.getByRole(".toList ++ quote r ++ ", \x7b name: ".toList ++ quote n ++ " \x7d)".toList
  | .text t => "page.getByText(".toList ++ quote t ++ [')']
  | .selector s => "page.locator(".toList ++ quote s ++ [')']

end Scenarist.Spec
