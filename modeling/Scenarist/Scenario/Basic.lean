import Scenarist.Scenario.Step
import Scenarist.Scenario.TagSet

/-!
# Scenarios

One test: a name, the steps in order, and tags. An identifier tells the scenarios of a run
apart.
-/

namespace Scenarist

/-- The tag of a scenario that came without tags. -/
def defaultTag : String := "generated"

/-- The version of the form that scenarios have. -/
def scenarioEdition : String := "0.1.0"

/-- One test. -/
structure Scenario where
  id : String
  name : String
  steps : List Step
  tags : TagSet
  timeTaken : Option String
deriving DecidableEq, Repr, Inhabited

namespace Scenario

/-- A scenario without steps, with the default tag. -/
def blank (id name : String) : Scenario := ⟨id, name, [], .ofList [defaultTag], none⟩

/-- The first step that is not valid decides, with its index. -/
def validateFrom (id : String) (index : Nat) : List Step → Except Invalid Unit
  | [] => .ok ()
  | s :: rest =>
    match s.validate with
    | .ok () => validateFrom id (index + 1) rest
    | .error e => .error (.step id index e)

/-- A scenario is valid if all its steps are. -/
def validate (s : Scenario) : Except Invalid Unit := validateFrom s.id 0 s.steps

/-- A scenario as a value. -/
def toJson (s : Scenario) : Json :=
  .ofFields [
    ("id", some (.string s.id)),
    ("name", some (.string s.name)),
    ("steps", some (.array (s.steps.map Step.toJson))),
    ("tags", some (.array (s.tags.names.map .string))),
    ("timeTakenToCompile", s.timeTaken.map .string)]

/-- Scenarios as a value. -/
def listToJson (scenarios : List Scenario) : Json := .array (scenarios.map toJson)

/-- The fields of a scenario; tags and time may be left out. -/
def shape (m : Json.Medium) : Json.RecordShape Scenario where
  name := "Scenario"
  fields := [
    ⟨["id"], .required, fun d s => d.asText.map fun t => { s with id := t }⟩,
    ⟨["name"], .required, fun d s => d.asText.map fun t => { s with name := t }⟩,
    ⟨["steps"], .required, fun d s => (d.asList (Step.read m)).map fun l => { s with steps := l }⟩,
    ⟨["tags"], .optional, fun d s =>
      (d.asList (·.asText)).map fun l => { s with tags := .ofList l }⟩,
    ⟨["timeTakenToCompile"], .optional, fun d s =>
      (d.asOption (·.asText)).map fun t => { s with timeTaken := t }⟩]
  blank := ⟨"", "", [], .empty, none⟩

/-- Reads a scenario. -/
def read (m : Json.Medium) (d : Json.Document) : Json.Reading Scenario := (shape m).read m d

/-- Reads a list of scenarios. -/
def readList (m : Json.Medium) (d : Json.Document) : Json.Reading (List Scenario) :=
  d.asList (read m)

end Scenario

end Scenarist
