import Scenarist.Scenario.Basic
import Scenarist.Time.Reading

/-!
# Snapshots

The scenarios of a run at one point, together with how they came about. A run takes two
snapshots, before and after repair; their ids are the id of the run with a suffix each, so
that the two belong together.
-/

namespace Scenarist

/-- The stages that took part in a snapshot. -/
inductive Source where
  | generationOnly
  | withRepair
deriving DecidableEq, Repr

namespace Source

/-- The name of a source. -/
def name : Source → String
  | generationOnly => "gemini_only"
  | withRepair => "gemini_plus_mcp"

/-- The suffix of the ids of its snapshots. -/
def suffix : Source → String
  | generationOnly => "gemini"
  | withRepair => "mcp"

/-- Reads a source by name. -/
def read (m : Json.Medium) (d : Json.Document) : Json.Reading Source :=
  d.asName m ([generationOnly, withRepair].map fun s => (s.name, s))

end Source

/-- The point at which a snapshot was taken. -/
inductive Stage where
  | generated
  | repaired
  | repairSkipped
  | compiled
deriving DecidableEq, Repr

namespace Stage

/-- The name of a stage. -/
def name : Stage → String
  | generated => "generated"
  | repaired => "repaired"
  | repairSkipped => "repair_skipped"
  | compiled => "compiled"

/-- Reads a stage by name. -/
def read (m : Json.Medium) (d : Json.Document) : Json.Reading Stage :=
  d.asName m ([generated, repaired, repairSkipped, compiled].map fun s => (s.name, s))

end Stage

/-- How a snapshot came about, and what it counts. -/
structure Metadata where
  generatedAt : Instant
  modelId : String
  totalTimeMs : Nat
  source : Source
  validationSucceeded : Bool
  stage : Stage
  scenarioCount : Nat
  stepCount : Nat
  improvedSteps : Nat
  degradedSteps : Nat
  degradedScenarios : Nat
  compiledFiles : Nat
deriving DecidableEq, Repr

/-- Reads an instant from its text. -/
def Instant.readDocument (d : Json.Document) : Json.Reading Instant :=
  match d with
  | .string (some s) =>
    match Instant.read s with
    | .ok t => .ok t
    | .error e => Json.issue (.notATime e.message)
  | d => d.unexpected "an RFC 3339 formatted date and time string"

namespace Metadata

/-- Metadata without any counts. -/
def start (generatedAt : Instant) (modelId : String) (totalTimeMs : Nat) (source : Source)
    (stage : Stage) : Metadata :=
  ⟨generatedAt, modelId, totalTimeMs, source, false, stage, 0, 0, 0, 0, 0, 0⟩

/-- Metadata as a value. -/
def toJson (x : Metadata) : Json :=
  .object [
    ("generatedAt", .string x.generatedAt.text),
    ("modelId", .string x.modelId),
    ("totalTimeMs", .nat x.totalTimeMs),
    ("source", .string x.source.name),
    ("validationSucceeded", .bool x.validationSucceeded),
    ("stage", .string x.stage.name),
    ("scenarioCount", .nat x.scenarioCount),
    ("stepCount", .nat x.stepCount),
    ("improvedSteps", .nat x.improvedSteps),
    ("degradedSteps", .nat x.degradedSteps),
    ("degradedScenarios", .nat x.degradedScenarios),
    ("compiledFiles", .nat x.compiledFiles)]

/-- A count that may be left out. -/
def countField (name : String) (set : Metadata → Nat → Metadata) : Json.Field Metadata :=
  ⟨[name], .optional, fun d x => (d.asNat "usize").map (set x)⟩

/-- The fields of metadata; counts may be left out. -/
def shape (m : Json.Medium) : Json.RecordShape Metadata where
  name := "RunMetadata"
  fields := [
    ⟨["generatedAt"], .required, fun d x =>
      (Instant.readDocument d).map fun t => { x with generatedAt := t }⟩,
    ⟨["modelId"], .required, fun d x => d.asText.map fun t => { x with modelId := t }⟩,
    ⟨["totalTimeMs"], .required, fun d x =>
      (d.asNat "u64").map fun n => { x with totalTimeMs := n }⟩,
    ⟨["source"], .required, fun d x => (Source.read m d).map fun s => { x with source := s }⟩,
    ⟨["validationSucceeded"], .required, fun d x =>
      d.asBool.map fun b => { x with validationSucceeded := b }⟩,
    ⟨["stage"], .required, fun d x => (Stage.read m d).map fun s => { x with stage := s }⟩,
    countField "scenarioCount" fun x n => { x with scenarioCount := n },
    countField "stepCount" fun x n => { x with stepCount := n },
    countField "improvedSteps" fun x n => { x with improvedSteps := n },
    countField "degradedSteps" fun x n => { x with degradedSteps := n },
    countField "degradedScenarios" fun x n => { x with degradedScenarios := n },
    countField "compiledFiles" fun x n => { x with compiledFiles := n }]
  blank := start ⟨0, 0, 0⟩ "" 0 .generationOnly .generated

/-- Reads metadata. -/
def read (m : Json.Medium) (d : Json.Document) : Json.Reading Metadata := (shape m).read m d

end Metadata

/-- The scenarios of a run at one point. -/
structure Snapshot where
  runId : String
  scenarios : List Scenario
  metadata : Metadata
deriving DecidableEq, Repr

namespace Snapshot

/-- The number of steps of all scenarios. -/
def countSteps (scenarios : List Scenario) : Nat :=
  (scenarios.map fun s => s.steps.length).foldr (· + ·) 0

/-- Takes a snapshot of a run: its id gets the suffix of the source, and scenarios and steps are
counted. -/
def capture (runId : String) (scenarios : List Scenario) (metadata : Metadata) : Snapshot where
  runId := runId ++ "-" ++ metadata.source.suffix
  scenarios := scenarios
  metadata := { metadata with
    scenarioCount := scenarios.length
    stepCount := countSteps scenarios }

/-- A text without the given ending, if it has it. -/
def dropEnding? (s ending : String) : Option String :=
  (ending.toList.reverse.isPrefixOf? s.toList.reverse).map fun r => String.ofList r.reverse

/-- The id of the run a snapshot belongs to. -/
def baseRunId (x : Snapshot) : String :=
  ((dropEnding? x.runId x.metadata.source.suffix).bind (dropEnding? · "-")).getD x.runId

/-- The name of the file a snapshot is kept in. -/
def fileName (x : Snapshot) : String := "scenarios_" ++ x.runId ++ ".json"

/-- A snapshot as a value. -/
def toJson (x : Snapshot) : Json :=
  .object [
    ("runId", .string x.runId),
    ("scenarios", Scenario.listToJson x.scenarios),
    ("metadata", x.metadata.toJson)]

/-- The fields of a snapshot. -/
def shape (m : Json.Medium) : Json.RecordShape Snapshot where
  name := "GenerationRun"
  fields := [
    ⟨["runId"], .required, fun d x => d.asText.map fun t => { x with runId := t }⟩,
    ⟨["scenarios"], .required, fun d x =>
      (Scenario.readList m d).map fun l => { x with scenarios := l }⟩,
    ⟨["metadata"], .required, fun d x =>
      (Metadata.read m d).map fun v => { x with metadata := v }⟩]
  blank := ⟨"", [], (Metadata.shape m).blank⟩

/-- Reads a snapshot. -/
def read (m : Json.Medium) (d : Json.Document) : Json.Reading Snapshot := (shape m).read m d

end Snapshot

end Scenarist
