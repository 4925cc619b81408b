import Scenarist.Repair.Report
import Scenarist.Session.Basic

/-!
# Replaying scenarios on the live page

Each scenario is replayed step by step. The target of an element is checked first, and a sturdier
selector that the check suggests takes its place once the step has succeeded with it. A repair
never fails. What goes wrong is absorbed on one of three levels, where all is kept as it was:
a step that fails, a scenario during which the connection is lost or the backend panics, or all
scenarios if the backend cannot be reached or the limit is exceeded. The session is closed at the
end in any case.
-/

namespace Scenarist.Repair

variable {σ : Type}

/-- The reason of a failure, or a fallback where nothing is said. -/
def failureReason (error : Option String) (fallback : String) : String :=
  match error with
  | some e => if isBlankText e then fallback else e
  | none => fallback

/-- The step with a remark after its description. -/
def remarked (s : Step) (remark : String) : Step :=
  { s with description := s.description ++ " [" ++ remark ++ "]" }

/-- The outcome of a navigation. -/
def navigationOutcome (s : Step) (r : StepResult) : Outcome Step :=
  if r.success then .ok (remarked s "navigation verified")
  else .degraded s (failureReason r.error "navigation failed")

/-- The outcome of waiting for the page as a whole. -/
def waitOutcome (s : Step) (r : StepResult) : Outcome Step :=
  if r.success then .ok s else .degraded s (failureReason r.error "wait failed")

/-- The selector with which a step is executed after its target was checked. -/
def candidate (s : Step) (v : Validation) : String :=
  if v.success then v.improvedSelector.getD s.target else s.target

/-- The outcome of a step on an element. -/
def elementOutcome (s : Step) (v : Validation) (r : StepResult) : Outcome Step :=
  if !v.success then .degraded s (failureReason v.error "selector validation failed")
  else if !r.success then .degraded s (failureReason r.error "step execution failed")
  else .ok (remarked (s.retarget (candidate s v)) ("validated selector: " ++ candidate s v))

/-- Replays a step on an element. It is executed even if the check has failed, so that the page
keeps up with the scenario. -/
def elementStep (b : Backend σ) (tools : Toolbox) (s : Step) :
    Play σ (Except SessionError (Outcome Step)) := do
  match ← Session.validateSelector b tools s.target with
  | .error e => return .error e
  | .ok v =>
    match ← Session.executeStep b tools s.action (candidate s v) s.data with
    | .error e => return .error e
    | .ok r => return .ok (elementOutcome s v r)

/-- Replays the step with the given index. The first step of a scenario, if it is a navigation,
leads to the address of the run. -/
def step (b : Backend σ) (tools : Toolbox) (url : String) (index : Nat) (s : Step) :
    Play σ (Except SessionError (Outcome Step)) :=
  match s.action with
  | .other name => return .ok (.degraded s ("unrecognized action: " ++ name))
  | .goto => do
    let address := if index = 0 then url else s.target
    let r ← Session.executeStep b tools .goto address none
    return r.map (navigationOutcome s)
  | .wait =>
    if s.targetsRoot then do
      let r ← Session.executeStep b tools s.action s.target s.data
      return r.map (waitOutcome s)
    else elementStep b tools s
  | _ => elementStep b tools s

/-- Replays steps in order, with a pause before each but the first, until the connection is
lost. -/
def steps (b : Backend σ) (tools : Toolbox) (url : String) (pause : Nat) :
    Nat → List Step → Play σ (Except SessionError (List (Outcome Step)))
  | _, [] => return .ok []
  | index, s :: rest => do
    if 0 < index && 0 < pause then Play.sleep pause
    match ← step b tools url index s with
    | .error e => return .error e
    | .ok o =>
      match ← steps b tools url pause (index + 1) rest with
      | .error e => return .error e
      | .ok os => return .ok (o :: os)

/-- What is said of a panic. -/
def panicReason (message : Option String) : String :=
  "panicked: " ++ message.getD "unknown panic"

/-- Replays a scenario. -/
def scenario (b : Backend σ) (tools : Toolbox) (url : String) (pause : Nat) (s : Scenario) :
    Play σ ScenarioRepair := do
  let before ← Play.look
  let result ← Play.attempt (steps b tools url pause 0 s.steps)
  let after ← Play.look
  let elapsed := after.now - before.now
  match result with
  | .ok (.ok outcomes) => return .replayed s outcomes elapsed
  | .ok (.error e) => return .kept s e.message elapsed
  | .error message => return .kept s (panicReason message) elapsed

/-- Replays scenarios in order. -/
def scenarios (b : Backend σ) (tools : Toolbox) (url : String) (pause : Nat) :
    List Scenario → Play σ (List ScenarioRepair)
  | [] => return []
  | s :: rest => do
    let r ← scenario b tools url pause s
    let rs ← scenarios b tools url pause rest
    return r :: rs

/-- Repairs scenarios without a limit, and closes the session. -/
def unlimited (b : Backend σ) (tools : Toolbox) (pause : Nat) (url : String)
    (all : List Scenario) : Play σ RepairReport := do
  if ← Session.connect b then
    let entries ← scenarios b tools url pause all
    Session.disconnect b
    return ⟨true, entries⟩
  else
    Session.disconnect b
    return .passthrough all "automation backend unavailable"

/-- Repairs scenarios within a limit in milliseconds, if there is one. When the limit is exceeded,
the session is closed and every scenario is kept. -/
def within (b : Backend σ) (tools : Toolbox) (pause : Nat) (url : String) (all : List Scenario)
    (limit : Option Nat) : Play σ RepairReport :=
  match limit with
  | none => unlimited b tools pause url all
  | some ms => fun outer w =>
    match unlimited b tools pause url all (some (w.now + ms)) w with
    | (.error .cut, w) =>
      (do Session.disconnect b; return .timedOut all ms : Play σ RepairReport) outer w
    | finished => finished

end Scenarist.Repair
