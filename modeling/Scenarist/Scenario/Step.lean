import Scenarist.Scenario.Action

/-!
# Steps

One action of a scenario, with its target, the data it carries and a description for the
reader. The target of an action is a selector, an address or a role expression, as the action
asks.
-/

namespace Scenarist

/-- The selector of the whole page. -/
def rootSelector : String := "body"

/-- One action of a scenario. -/
structure Step where
  action : Action
  target : String
  data : Option String
  description : String
deriving DecidableEq, Repr, Inhabited

/-- Why a step or a scenario is not valid. -/
inductive Invalid where
  | unrecognizedAction (name : String)
  | step (scenario : String) (index : Nat) (reason : Invalid)
deriving DecidableEq, Repr

/-- The wording of a validation failure. -/
def Invalid.message : Invalid → String
  | .unrecognizedAction name => "Unrecognized action: " ++ name
  | .step scenario index reason =>
    "Invalid step " ++ Decimal.natText index ++ " in scenario " ++ scenario ++ ": " ++
      reason.message

namespace Step

/-- A step without data that describes itself. -/
def plain (action : Action) (target : String) : Step :=
  ⟨action, target, none, action.name ++ " " ++ target⟩

/-- The same step with a different target. -/
def retarget (s : Step) (target : String) : Step := { s with target := target }

/-- A step is valid if its action is recognized. -/
def validate (s : Step) : Except Invalid Unit :=
  if s.action.isRecognized then .ok () else .error (.unrecognizedAction s.action.name)

/-- The target is the whole page. -/
def targetsRoot (s : Step) : Bool := trimmed s.target == rootSelector

/-- A step as a value. -/
def toJson (s : Step) : Json :=
  .ofFields [
    ("action", some s.action.toJson),
    ("target", some (.string s.target)),
    ("data", s.data.map .string),
    ("description", some (.string s.description))]

/-- The fields of a step; data and description may be left out. -/
def shape : Json.RecordShape Step where
  name := "Step"
  fields := [
    ⟨["action"], .required, fun d s => (Action.read d).map fun a => { s with action := a }⟩,
    ⟨["target"], .required, fun d s => d.asText.map fun t => { s with target := t }⟩,
    ⟨["data"], .optional, fun d s => (d.asOption (·.asText)).map fun t => { s with data := t }⟩,
    ⟨["description"], .optional, fun d s => d.asText.map fun t => { s with description := t }⟩]
  blank := ⟨.goto, "", none, ""⟩

/-- Reads a step. -/
def read (m : Json.Medium) (d : Json.Document) : Json.Reading Step := shape.read m d

end Step

end Scenarist
