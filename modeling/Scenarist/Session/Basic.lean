import Scenarist.Session.Backend
import Scenarist.Session.Template
import Scenarist.Session.Answer
import Scenarist.Settings.Tools

/-!
# Sessions

A session is one connection to a backend. It is disconnected, connecting, connected or closed;
closing is for good, and a lost connection leaves it disconnected. Tools are called only while
it is connected. That a step or the check of a selector fails is part of its result; only a
connection that is missing or lost is an error, since it makes every further call fail too.
-/

namespace Scenarist

/-- Why a call could not be made, or could not be brought to an end. -/
inductive SessionError where
  | notConnected (state : SessionState)
  | lost (reason : String)
deriving DecidableEq, Repr

/-- The wording of a session error. -/
def SessionError.message : SessionError → String
  | .notConnected state => "session is " ++ state.name ++ ", not connected"
  | .lost reason => "automation backend connection lost: " ++ reason

/-- The result of a step on the live page. -/
structure StepResult where
  success : Bool
  improvedSelector : Option String
  executionTimeMs : Option Nat
  error : Option String
deriving DecidableEq, Repr

/-- The result of checking a selector. -/
structure Validation where
  success : Bool
  improvedSelector : Option String
  error : Option String
deriving DecidableEq, Repr

namespace StepResult

/-- A result as a value. -/
def toJson (r : StepResult) : Json :=
  .ofFields [
    ("success", some (.bool r.success)),
    ("improvedSelector", r.improvedSelector.map .string),
    ("executionTimeMs", r.executionTimeMs.map .nat),
    ("error", r.error.map .string)]

/-- The fields of a result. -/
def shape : Json.RecordShape StepResult where
  name := "StepResult"
  fields := [
    ⟨["success"], .required, fun d r => d.asBool.map fun b => { r with success := b }⟩,
    ⟨["improvedSelector"], .omissible, fun d r =>
      (d.asOption (·.asText)).map fun s => { r with improvedSelector := s }⟩,
    ⟨["executionTimeMs"], .omissible, fun d r =>
      (d.asOption (·.asNat "u64")).map fun n => { r with executionTimeMs := n }⟩,
    ⟨["error"], .omissible, fun d r =>
      (d.asOption (·.asText)).map fun s => { r with error := s }⟩]
  blank := ⟨false, none, none, none⟩

/-- Reads a result. -/
def read (m : Json.Medium) (d : Json.Document) : Json.Reading StepResult := shape.read m d

/-- A step that failed. -/
def failed (error : String) : StepResult := ⟨false, none, none, some error⟩

end StepResult

namespace Validation

/-- A result as a value. -/
def toJson (r : Validation) : Json :=
  .ofFields [
    ("success", some (.bool r.success)),
    ("improvedSelector", r.improvedSelector.map .string),
    ("error", r.error.map .string)]

/-- The fields of a result. -/
def shape : Json.RecordShape Validation where
  name := "ValidationResult"
  fields := [
    ⟨["success"], .required, fun d r => d.asBool.map fun b => { r with success := b }⟩,
    ⟨["improvedSelector"], .omissible, fun d r =>
      (d.asOption (·.asText)).map fun s => { r with improvedSelector := s }⟩,
    ⟨["error"], .omissible, fun d r =>
      (d.asOption (·.asText)).map fun s => { r with error := s }⟩]
  blank := ⟨false, none, none⟩

/-- Reads a result. -/
def read (m : Json.Medium) (d : Json.Document) : Json.Reading Validation := shape.read m d

/-- A selector that did not pass. -/
def failed (error : String) : Validation := ⟨false, none, some error⟩

end Validation

namespace SessionState

/-- Reads a state by name. -/
def read (m : Json.Medium) (d : Json.Document) : Json.Reading SessionState :=
  d.asName m ([disconnected, connecting, connected, closed].map fun s => (s.name, s))

end SessionState

/-- A suggested selector, if it is an alternative to the one in use. -/
def betterSelector (candidate : Option String) (current : String) : Option String :=
  match candidate.map trimmed with
  | some s => if s.isEmpty || s = trimmed current then none else some s
  | none => none

namespace Session

variable {σ : Type}

/-- The description of a session: nothing but its state. -/
def describe (w : World σ) : String :=
  "AutomationSession \x7b state: " ++ w.state.label ++ " \x7d"

/-- Connects, unless the session is connected or closed; tells whether it is connected. -/
def connect (b : Backend σ) : Play σ Bool := do
  let w ← Play.look
  match w.state with
  | .connected => return true
  | .closed => return false
  | _ =>
    Play.change fun w => { w with state := .connecting, attempted := true }
    match ← Play.ask b.connect .connect with
    | .ok () =>
      Play.change fun w => { w with state := .connected }
      return true
    | .error _ =>
      Play.change fun w => { w with state := .disconnected }
      return false

/-- Closes the session; the backend is asked to close if it was ever asked to connect. -/
def disconnect (b : Backend σ) : Play σ Unit := do
  let w ← Play.look
  if w.state = .closed then return ()
  else
    if w.attempted then Play.ask b.close .close
    Play.change fun w => { w with state := .closed }

/-- Calls a tool; a failure of the connection is a loss. -/
def call (b : Backend σ) (tool : String) (arguments : Json) :
    Play σ (Except SessionError (Except Failure ToolReply)) := do
  let w ← Play.look
  if w.state = .connected then
    match ← Play.ask (b.call · tool arguments) (.call · tool arguments ·) with
    | .panicked m => Play.interrupt (.panicked m)
    | .answered (.error (.connection reason)) =>
      Play.change fun w => { w with state := .disconnected }
      return .error (.lost reason)
    | .answered (.error (.io reason)) =>
      Play.change fun w => { w with state := .disconnected }
      return .error (.lost reason)
    | .answered r => return .ok r
  else return .error (.notConnected w.state)

/-- What the answer to a step means. -/
def stepResult (action : Action) (target : String) : Except Failure ToolReply → StepResult
  | .error e => .failed e.message
  | .ok reply =>
    if reply.isError then .failed reply.text
    else
      match Answer.parse? reply.text with
      | some a =>
        if a.success = some false then .failed (a.error.getD (action.name ++ " failed"))
        else ⟨true, betterSelector a.selector target, none, none⟩
      | none => ⟨true, none, none, none⟩

/-- What the answer to the check of a selector means; a text that is no structured answer is
taken for the suggested selector. -/
def validation (target : String) : Except Failure ToolReply → Validation
  | .error e => .failed e.message
  | .ok reply =>
    if reply.isError then .failed reply.text
    else
      match Answer.parse? reply.text with
      | some a =>
        if a.success = some false then
          .failed (a.error.getD ("selector " ++ target ++ " did not resolve"))
        else ⟨true, betterSelector a.selector target, none⟩
      | none => ⟨true, betterSelector (some reply.text) target, none⟩

/-- Executes an action on the live page. -/
def executeStep (b : Backend σ) (tools : Toolbox) (action : Action) (target : String)
    (data : Option String) : Play σ (Except SessionError StepResult) := do
  match tools.forAction? action with
  | none => return .ok (.failed ("unsupported action: " ++ action.name))
  | some tool =>
    let before ← Play.look
    match ← call b tool.name (Template.render target data tool.arguments) with
    | .error e => return .error e
    | .ok reply =>
      let after ← Play.look
      return .ok { stepResult action target reply with
        executionTimeMs := some (after.now - before.now) }

/-- Checks whether a target resolves on the live page, and asks for a sturdier one. -/
def validateSelector (b : Backend σ) (tools : Toolbox) (target : String) :
    Play σ (Except SessionError Validation) := do
  let tool := tools.validateSelector
  match ← call b tool.name (Template.render target none tool.arguments) with
  | .error e => return .error e
  | .ok reply => return .ok (validation target reply)

end Session

end Scenarist
