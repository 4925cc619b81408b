import Scenarist.Reply.Prompt
import Scenarist.Reply.Scenarios
import Scenarist.Repair.Replay
import Scenarist.Run.Request
import Scenarist.Run.Snapshot
import Scenarist.Settings.Basic
import Scenarist.Spec.Source

/-!
# Runs

A run asks a text service for scenarios, takes a snapshot of them, repairs their selectors on
the live page, makes a spec file of each, and takes a second snapshot. Only the text service can
make a run fail. What goes wrong in the repair leaves the scenarios as they were.
-/

namespace Scenarist

/-- A repair on the live page as part of a run. -/
structure RepairStage where
  tools : Toolbox
  settings : RepairSettings
deriving Repr

/-- What a run is made of. -/
structure Pipeline where
  /-- The name of the model behind the text service. -/
  modelId : String
  generator : GeneratorSettings
  spec : SpecOptions
  /-- The repair, if there is a backend for it. -/
  repair : Option RepairStage
deriving Repr

/-- What a run leaves behind. -/
structure RunOutput where
  runId : String
  before : Snapshot
  after : Snapshot
  files : List SpecFile
  report : Option RepairReport
deriving Repr

/-- The output of a run as a value. -/
def RunOutput.toJson (o : RunOutput) : Json :=
  .ofFields [
    ("runId", some (.string o.runId)),
    ("preRepair", some o.before.toJson),
    ("postRepair", some o.after.toJson),
    ("files", some (.array (o.files.map SpecFile.toJson))),
    ("repair", o.report.map RepairReport.toJson)]

/-- The prompt of a request. -/
def GeneratorSettings.prompt (s : GeneratorSettings) (r : Request) : String :=
  Scenarist.prompt r.objective r.targetUrl r.credentials s.minScenarios

/-- Asks a text service for the scenarios of a request. -/
def GeneratorSettings.generate (s : GeneratorSettings)
    (complete : String → Except Failure String) (r : Request) : Except Failure (List Scenario) :=
  (complete (s.prompt r)).map Reply.parseScenarios

namespace Pipeline

variable {σ : Type}

/-- The pipeline for settings. -/
def ofSettings (s : Settings) : Pipeline where
  modelId := s.gemini.model
  generator := s.generator
  spec := s.spec
  repair := some ⟨s.automation.tools, s.repair⟩

/-- The scenarios of a run are repaired. -/
def repairEnabled (p : Pipeline) : Bool := p.repair.any (·.settings.enabled)

/-- The stage that repairs the given scenarios, if they are to be repaired. -/
def stageFor? (p : Pipeline) (scenarios : List Scenario) : Option RepairStage :=
  p.repair.filter fun r => r.settings.enabled && !scenarios.isEmpty

/-- Repairs scenarios in a session of their own. -/
def repairStage (b : Backend σ) (stage : RepairStage) (url : String) (scenarios : List Scenario) :
    Play σ RepairReport := do
  Play.change World.anew
  Repair.within b stage.tools stage.settings.stepDelayMs url scenarios stage.settings.limitMs?

/-- The metadata of the snapshot after the repair. -/
def withReport (m : Metadata) (report : Option RepairReport) : Metadata :=
  match report with
  | some r => { m with
      validationSucceeded := r.validationSucceeded
      improvedSteps := r.improvedSteps
      degradedSteps := r.degradedSteps
      degradedScenarios := r.degradedScenarios }
  | none => m

/-- Carries on with the scenarios of the text service, `started` being the millisecond at which
the run began and `clock` telling the time of day. -/
def proceed (p : Pipeline) (b : Backend σ) (clock : Nat → Instant) (runId url : String)
    (started : Nat) (scenarios : List Scenario) : Play σ RunOutput := do
  let generated ← Play.look
  let before := Snapshot.capture runId scenarios
    (.start (clock generated.now) p.modelId (generated.now - started) .generationOnly .generated)
  let report ← match p.stageFor? scenarios with
    | some stage => do
      let report ← repairStage b stage url scenarios
      pure (some report)
    | none => pure none
  let repaired := (report.map (·.scenarios)).getD scenarios
  let done ← Play.look
  let files := SpecFile.ofScenarios repaired p.spec (clock done.now)
  let stage := if report.isSome then Stage.repaired else .repairSkipped
  let metadata := withReport
    (.start (clock done.now) p.modelId (done.now - started) .withRepair stage) report
  let after := Snapshot.capture runId repaired { metadata with compiledFiles := files.length }
  return ⟨runId, before, after, files, report⟩

/-- Runs a request; `freshId` is the id of the run if the request has none. -/
def run (p : Pipeline) (b : Backend σ) (clock : Nat → Instant) (freshId : String)
    (complete : String → Except Failure String) (r : Request) :
    Play σ (Except Failure RunOutput) := do
  let begun ← Play.look
  match p.generator.generate complete r with
  | .error e => return .error e
  | .ok scenarios =>
    let output ← p.proceed b clock (r.runId.getD freshId) r.targetUrl begun.now scenarios
    return .ok output

end Pipeline

end Scenarist
