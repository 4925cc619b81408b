import Scenarist.Reply.Extract
import Scenarist.Scenario.Basic
import Scenarist.Json.Printer

/-!
# Reading scenarios from a reply

The object of a reply has a list `scenarios`. An entry of a wrong shape makes the whole reply
useless, so that the result is empty; a field of an entry that is missing gets a default, and
a step whose action is not recognized is dropped. Identifiers are made distinct at the end.
-/

namespace Scenarist.Reply

/-- The text of a value that is a text, a number or a flag. -/
def scalar? : Json → Option String
  | .string s => some s
  | .number n => some n.text
  | .bool b => some (Json.boolText b)
  | _ => none

/-- The scalar under a key, without blanks around it, unless nothing is left. -/
def nonBlank? (members : List (String × Json)) (key : String) : Option String := do
  let value ← members.lookup key
  let s ← scalar? value
  let t := trimmed s
  if t.isEmpty then none else some t

/-- The step of an entry: `none` if the entry is no object, and `some none` if its action is
not recognized. -/
def step? : Json → Option (Option Step)
  | .object members =>
    let action := ((nonBlank? members "action").map Action.parse).getD .click
    let target := (nonBlank? members "target").getD rootSelector
    let step := Step.plain action target
    if action.isRecognized then
      some (some { step with
        data := (members.lookup "data").bind scalar?
        description := (nonBlank? members "description").getD step.description })
    else some none
  | _ => none

/-- The steps of a list of entries, those that are dropped left out. -/
def steps? : List Json → Option (List Step)
  | [] => some []
  | v :: rest => do
    let s ← step? v
    let others ← steps? rest
    return s.toList ++ others

/-- The steps under `steps`, which may be missing or null. -/
def stepsOf? (members : List (String × Json)) : Option (List Step) :=
  match members.lookup "steps" with
  | none => some []
  | some .null => some []
  | some (.array items) => steps? items
  | some _ => none

/-- The tags under `tags`, or the default tag if there is none. -/
def tagsOf (members : List (String × Json)) : TagSet :=
  let names := match members.lookup "tags" with
    | some (.array items) => items.filterMap scalar?
    | _ => []
  .ofList (if names.isEmpty then [defaultTag] else names)

/-- The scenario of the entry with the given number. -/
def scenario? (number : Nat) : Json → Option Scenario
  | .object members => do
    let steps ← stepsOf? members
    return {
      id := (nonBlank? members "id").getD ("scenario_" ++ Decimal.natText number)
      name := (nonBlank? members "name").getD ("Scenario " ++ Decimal.natText number)
      steps := steps
      tags := tagsOf members
      timeTaken := none }
  | _ => none

/-- The scenarios of entries, numbered from `number`. -/
def scenarios? (number : Nat) : List Json → Option (List Scenario)
  | [] => some []
  | v :: rest => do
    let s ← scenario? number v
    let others ← scenarios? (number + 1) rest
    return s :: others

/-! ### Distinct identifiers -/

/-- An identifier with a number after it. -/
def numbered (id : String) (n : Nat) : String := id ++ "-" ++ Decimal.natText n

/-- The first of `id-n`, `id-(n+1)`, … that is not taken; the search has `fuel` tries. -/
def firstFree (taken : List String) (id : String) (n : Nat) : Nat → String
  | 0 => numbered id n
  | fuel + 1 =>
    if taken.contains (numbered id n) then firstFree taken id (n + 1) fuel else numbered id n

/-- An identifier that is not taken: the given one, or the first one free with a number. -/
def freshId (taken : List String) (id : String) : String :=
  if taken.contains id then firstFree taken id 2 taken.length else id

/-- Makes identifiers distinct from the ones taken and from each other, in order. -/
def distinctIdsFrom (taken : List String) : List Scenario → List Scenario
  | [] => []
  | s :: rest =>
    let id := freshId taken s.id
    { s with id := id } :: distinctIdsFrom (id :: taken) rest

/-- Makes the identifiers of scenarios distinct. -/
def distinctIds (scenarios : List Scenario) : List Scenario := distinctIdsFrom [] scenarios

/-- The entries of the object of a reply. -/
def entries? (reply : String) : Option (List Json) := do
  let object ← extract? reply.toList
  let value ← Json.parse? (String.ofList object)
  let list ← value.member? "scenarios"
  list.items?

/-- The scenarios of a reply; none if it does not have the expected form. -/
def parseScenarios (reply : String) : List Scenario :=
  match (entries? reply).bind (scenarios? 1) with
  | some scenarios => distinctIds scenarios
  | none => []

end Scenarist.Reply
