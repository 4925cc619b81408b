import Scenarist.Spec.Statement
import Scenarist.Scenario.Basic
import Scenarist.Time.Reading

/-!
# Spec files

The spec file of a scenario, line by line: the header of the language, an empty line, a
comment with the tags if there are any, and the test with a comment and a statement for every
step. The name of the file is made of the name of the scenario and a time stamp.
-/

namespace Scenarist.Spec

/-- The first line of a file. -/
def header : Language → List Char
  | .typeScript => "import \x7b test, expect \x7d from '@playwright/test';".toList
  | .javaScript => "const \x7b test, expect \x7d = require('@playwright/test');".toList

/-- The line with the tags. -/
def tagLine (tags : TagSet) : List Char := "// Tags: ".toList ++ tags.text.toList

/-- The line that opens the test. -/
def openLine (name : String) : List Char :=
  "test(".toList ++ quote name.toList ++ ", async (\x7b page \x7d) => \x7b".toList

/-- The line that closes the test. -/
def closeLine : List Char := "\x7d);".toList

/-- The comment above the step with the given number. -/
def stepLine (number : Nat) (s : Step) : List Char :=
  "  // Step ".toList ++ Decimal.digitChars number ++ ": ".toList ++
    (commentText s.description).toList

/-- The lines of a step. -/
def stepLines (strategy : Strategy) (number : Nat) (s : Step) : List (List Char) :=
  stepLine number s :: (remark? s).toList ++ [(Statement.ofStep strategy s).line]

/-- The lines of steps, numbered from `number`. -/
def stepsLines (strategy : Strategy) (number : Nat) : List Step → List (List Char)
  | [] => []
  | s :: rest => stepLines strategy number s ++ stepsLines strategy (number + 1) rest

/-- The lines of a test. -/
def testLines (strategy : Strategy) (s : Scenario) : List (List Char) :=
  openLine s.name :: stepsLines strategy 1 s.steps ++ [closeLine]

/-- The lines of a file. -/
def lines (o : SpecOptions) (s : Scenario) : List (List Char) :=
  header o.language :: [] :: (if s.tags.isEmpty then [] else [tagLine s.tags]) ++
    testLines o.strategy s

/-- The text of a file: its lines, each with a line end. -/
def compile (o : SpecOptions) (s : Scenario) : String :=
  String.ofList ((lines o s).flatMap fun l => l ++ ['\n'])

/-! ### File names -/

/-- A name for a file: letters in lower case, and an underscore for every other character that
is not a digit. -/
def sanitizeName (name : String) : String :=
  String.ofList (name.toList.map fun c => if c.isAlphanum then c.toLower else '_')

/-- A time stamp for a file name: no colon and no point. -/
def stamp (t : Instant) : String :=
  String.ofList ((t.render .millis).map fun c => if c = ':' || c = '.' then '-' else c)

/-- The name of the file of a scenario. -/
def fileName (s : Scenario) (t : Instant) (l : Language) : String :=
  sanitizeName s.name ++ "_" ++ stamp t ++ ".spec." ++ l.extension

end Scenarist.Spec

namespace Scenarist

/-- A spec file and the scenario it tests. -/
structure SpecFile where
  scenarioId : String
  fileName : String
  source : String
deriving DecidableEq, Repr

namespace SpecFile

/-- A spec file as a value. -/
def toJson (f : SpecFile) : Json :=
  .object [
    ("scenarioId", .string f.scenarioId),
    ("fileName", .string f.fileName),
    ("source", .string f.source)]

/-- The fields of a spec file. -/
def shape : Json.RecordShape SpecFile where
  name := "GeneratedFile"
  fields := [
    ⟨["scenarioId"], .required, fun d f => d.asText.map fun t => { f with scenarioId := t }⟩,
    ⟨["fileName"], .required, fun d f => d.asText.map fun t => { f with fileName := t }⟩,
    ⟨["source"], .required, fun d f => d.asText.map fun t => { f with source := t }⟩]
  blank := ⟨"", "", ""⟩

/-- Reads a spec file. -/
def read (m : Json.Medium) (d : Json.Document) : Json.Reading SpecFile := shape.read m d

/-- The spec file of a scenario, stamped with a time. -/
def ofScenario (o : SpecOptions) (t : Instant) (s : Scenario) : SpecFile where
  scenarioId := s.id
  fileName := Spec.fileName s t o.language
  source := Spec.compile o s

/-- The spec files of scenarios, all stamped with one time. -/
def ofScenarios (scenarios : List Scenario) (o : SpecOptions) (t : Instant) : List SpecFile :=
  scenarios.map (ofScenario o t)

end SpecFile

end Scenarist
