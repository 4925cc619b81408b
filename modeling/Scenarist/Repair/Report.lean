import Scenarist.Scenario.Basic
import Scenarist.Scenario.Outcome
import Scenarist.Time.Span

/-!
# Reports of a repair

What became of every scenario, in the order in which they were given. A scenario that was
replayed to its last step has one outcome for every step; one that had to be given up is kept as
it was and has none.
-/

namespace Scenarist

/-- What became of one scenario. -/
structure ScenarioRepair where
  outcome : Outcome Scenario
  /-- What became of its steps; nothing if the scenario was given up. -/
  steps : List (Outcome Step)
  /-- The number of steps that have a new target. -/
  improved : Nat
  durationMs : Nat
deriving Repr

namespace ScenarioRepair

/-- The step has a new target. -/
def isImproved (before : Step) (after : Outcome Step) : Bool :=
  after.isOk && after.value.target != before.target

/-- The scenario was replayed to its last step, which took `elapsed` milliseconds. -/
def replayed (before : Scenario) (steps : List (Outcome Step)) (elapsed : Nat) :
    ScenarioRepair where
  outcome := .ok { before with
    steps := steps.map (·.value)
    timeTaken := some (Time.secondsText elapsed) }
  steps := steps
  improved := ((before.steps.zip steps).filter fun (b, a) => isImproved b a).length
  durationMs := elapsed

/-- The scenario was given up after `elapsed` milliseconds. -/
def kept (before : Scenario) (reason : String) (elapsed : Nat) : ScenarioRepair :=
  ⟨.degraded before reason, [], 0, elapsed⟩

/-- The scenario to go on with. -/
def scenario (r : ScenarioRepair) : Scenario := r.outcome.value

/-- The number of steps that were kept as they were. -/
def degradedSteps (r : ScenarioRepair) : Nat := r.steps.countP (·.isDegraded)

/-- What became of a scenario as a value. -/
def toJson (r : ScenarioRepair) : Json :=
  .object [
    ("outcome", r.outcome.toJson Scenario.toJson),
    ("steps", .array (r.steps.map (·.toJson Step.toJson))),
    ("improvedSteps", .nat r.improved),
    ("durationMs", .nat r.durationMs)]

end ScenarioRepair

/-- The result of a repair. -/
structure RepairReport where
  /-- The backend could be reached. -/
  connected : Bool
  entries : List ScenarioRepair
deriving Repr

namespace RepairReport

/-- No scenario was tried, for one reason. -/
def passthrough (scenarios : List Scenario) (reason : String) : RepairReport :=
  ⟨false, scenarios.map (.kept · reason 0)⟩

/-- The limit was exceeded, in milliseconds. -/
def timedOut (scenarios : List Scenario) (limit : Nat) : RepairReport :=
  ⟨true, scenarios.map (.kept · ("repair exceeded " ++ Time.spanText limit) limit)⟩

/-- The scenarios to go on with. -/
def scenarios (r : RepairReport) : List Scenario := r.entries.map (·.scenario)

/-- The number of steps that have a new target. -/
def improvedSteps (r : RepairReport) : Nat := (r.entries.map (·.improved)).foldr (· + ·) 0

/-- The number of steps that were kept although their scenario was replayed. -/
def degradedSteps (r : RepairReport) : Nat := (r.entries.map (·.degradedSteps)).foldr (· + ·) 0

/-- The number of scenarios that were given up. -/
def degradedScenarios (r : RepairReport) : Nat := r.entries.countP (·.outcome.isDegraded)

/-- The backend could be reached and no scenario was given up. -/
def validationSucceeded (r : RepairReport) : Bool := r.connected && r.degradedScenarios == 0

/-- A report as a value. -/
def toJson (r : RepairReport) : Json :=
  .object [
    ("connected", .bool r.connected),
    ("scenarios", .array (r.entries.map (·.toJson)))]

end RepairReport

end Scenarist
