import Scenarist.Proofs.Session.Course

/-!
# What a Session Asks For

Each operation of a session makes requests of one kind, and only in some of its states: `connect`
asks the backend to connect unless the session is connected or closed, `disconnect` asks it to
close if it was ever asked to connect, and a tool is called only in a connected session. Here each
operation is taken apart once, by the state in which it is begun.

What an operation has asked for by the time it stops is said of every way in which it can stop:
the request is made before anything is waited for.

## Main results

* `connect_log`, `disconnect_log`: connecting and closing ask for nothing else.
* `executeStep_of_not_connected`, `validateSelector_of_not_connected`: without a connection,
  steps and checks are refused and change nothing.
-/

namespace Scenarist

namespace Event

/-- What can be asked of a backend. -/
inductive Kind where
  | connect
  | call
  | close
deriving DecidableEq, Repr

/-- What was asked. -/
def kind : Event → Kind
  | .connect _ _ => .connect
  | .call _ _ _ _ => .call
  | .close _ _ => .close

/-- When it was asked. -/
def time : Event → Nat
  | .connect at_ _ => at_
  | .call at_ _ _ _ => at_
  | .close at_ _ => at_

end Event

/-- How often the backend was asked to close. -/
def closes (log : List Event) : Nat := log.countP fun e => e.kind = .close

/-- The closings in two logs are counted together. -/
theorem closes_append (log asked : List Event) :
    closes (log ++ asked) = closes log + closes asked := List.countP_append

/-- What is no closing is not counted. -/
theorem closes_eq_zero {log : List Event} (h : ∀ e ∈ log, e.kind ≠ .close) : closes log = 0 := by
  refine List.countP_eq_zero.2 fun e he => ?_
  simpa using h e he

namespace Session

variable {σ : Type} (b : Backend σ) (d : Option Nat) {w : World σ}

/-! ### Connecting -/

/-- A session that is connected asks for nothing when it is to connect. -/
theorem connect_of_connected (h : w.state = .connected) : connect b d w = (.ok true, w) := by
  simp only [connect, Play.look_bind, h]
  rfl

/-- A session that is closed asks for nothing when it is to connect, and fails. -/
theorem connect_of_closed (h : w.state = .closed) : connect b d w = (.ok false, w) := by
  simp only [connect, Play.look_bind, h]
  rfl

/-- What becomes of the session when the backend has reacted to a connect. -/
def afterConnect : Except Failure Unit → Play σ Bool
  | .ok () => do
    Play.change fun w => { w with state := .connected }
    return true
  | .error _ => do
    Play.change fun w => { w with state := .disconnected }
    return false

/-- A session that is neither connected nor closed asks the backend. -/
theorem connect_of_open (hconnected : w.state ≠ .connected) (hclosed : w.state ≠ .closed) :
    connect b d w = (Play.ask b.connect .connect >>= afterConnect) d
      { w with state := .connecting, attempted := true } := by
  simp only [connect, Play.look_bind]
  rfl

/-- A session that has not begun is connected if the backend says so. -/
theorem connect_start {s : σ} {delay : Nat} (h : (b.connect s).2 = .after delay (.ok ())) :
    connect b none (.start s) = (.ok true,
      ⟨(b.connect s).1, .connected, true, 0 + delay, [.connect 0 (.after delay (.ok ()))]⟩) := by
  have hask : Play.ask b.connect .connect none
      { World.start s with state := .connecting, attempted := true } = (.ok (.ok ()), _) :=
    Play.ask_eq_ok_iff.2 ⟨_, delay, Prod.ext rfl h, by rintro _ ⟨⟩, rfl⟩
  rw [connect_of_open b none (by simp [World.start]) (by simp [World.start]),
    Play.bind_of_ok hask]
  rfl

/-- However connecting goes, nothing else is asked for. -/
theorem connect_log (w : World σ) :
    ∃ asked, (connect b d w).2.log = w.log ++ asked ∧ ∀ e ∈ asked, e.kind = .connect := by
  by_cases hconnected : w.state = .connected
  · rw [connect_of_connected b d hconnected]
    exact ⟨[], by simp, by simp⟩
  · by_cases hclosed : w.state = .closed
    · rw [connect_of_closed b d hclosed]
      exact ⟨[], by simp, by simp⟩
    · have hafter : ∀ result d (w : World σ), (afterConnect result d w).2.log = w.log := by
        intro result d w
        cases result <;> rfl
      rw [connect_of_open b d hconnected hclosed, Play.bind_log hafter, Play.ask_log]
      exact ⟨_, rfl, by simp [Event.kind]⟩

/-! ### Closing -/

/-- A session that is closed asks for nothing when it is to be closed. -/
theorem disconnect_of_closed (h : w.state = .closed) : disconnect b d w = (.ok (), w) := by
  simp only [disconnect, Play.look_bind, h, if_true]
  rfl

/-- A session that was never connected is closed without the backend. -/
theorem disconnect_of_untouched (hclosed : w.state ≠ .closed) (hattempted : w.attempted = false) :
    disconnect b d w = (.ok (), { w with state := .closed }) := by
  have hno : ¬ w.attempted = true := by simp [hattempted]
  simp only [disconnect, Play.look_bind, if_neg hclosed, if_neg hno]
  rfl

/-- A session that has tried to connect asks the backend to close, and is closed only after
that. -/
theorem disconnect_of_attempted (hclosed : w.state ≠ .closed) (hattempted : w.attempted = true) :
    disconnect b d w = (do
      Play.ask b.close .close
      Play.change fun w => { w with state := .closed } : Play σ Unit) d w := by
  simp only [disconnect, Play.look_bind, if_neg hclosed, hattempted, if_true]

/-- A session that has tried to connect asks its backend once to close. -/
theorem disconnect_log_of_attempted (hclosed : w.state ≠ .closed)
    (hattempted : w.attempted = true) :
    (disconnect b d w).2.log = w.log ++ [.close w.now (b.close w.backend).2] := by
  rw [disconnect_of_attempted b d hclosed hattempted, Play.bind_log fun _ _ _ => rfl,
    Play.ask_log]

/-- However closing goes, nothing else is asked for. -/
theorem disconnect_log (w : World σ) :
    ∃ asked, (disconnect b d w).2.log = w.log ++ asked ∧ ∀ e ∈ asked, e.kind = .close := by
  by_cases hclosed : w.state = .closed
  · rw [disconnect_of_closed b d hclosed]
    exact ⟨[], by simp, by simp⟩
  · cases hattempted : w.attempted with
    | false =>
        rw [disconnect_of_untouched b d hclosed hattempted]
        exact ⟨[], by simp, by simp⟩
    | true =>
        exact ⟨_, disconnect_log_of_attempted b d hclosed hattempted, by simp [Event.kind]⟩

/-! ### Calling tools -/

/-- Without a connection no tool is called. -/
theorem call_of_not_connected (h : w.state ≠ .connected) (tool : String) (arguments : Json) :
    call b tool arguments d w = (.ok (.error (.notConnected w.state)), w) := by
  simp only [call, Play.look_bind, if_neg h]
  rfl

/-- What becomes of the session when a call has come to its end. -/
def afterCall : CallEnd → Play σ (Except SessionError (Except Failure ToolReply))
  | .panicked m => Play.interrupt (.panicked m)
  | .answered (.error (.connection reason)) => do
    Play.change fun w => { w with state := .disconnected }
    return .error (.lost reason)
  | .answered (.error (.io reason)) => do
    Play.change fun w => { w with state := .disconnected }
    return .error (.lost reason)
  | .answered r => return .ok r

/-- On a connection the backend is asked, and its answer decides about the connection. -/
theorem call_of_connected (h : w.state = .connected) (tool : String) (arguments : Json) :
    call b tool arguments d w =
      (Play.ask (b.call · tool arguments) (.call · tool arguments ·) >>= afterCall) d w := by
  simp only [call, Play.look_bind, if_pos h]
  rfl

variable {tools : Toolbox}

/-- An action for which there is a tool is recognized. -/
theorem isRecognized_of_forAction? {action : Action} {tool : Tool}
    (h : tools.forAction? action = some tool) : action.isRecognized = true := by
  cases action with
  | other name => cases h
  | _ => rfl

/-- An action for which there is no tool is not recognized. -/
theorem isRecognized_of_forAction?_eq_none {action : Action}
    (h : tools.forAction? action = none) : action.isRecognized = false := by
  cases action with
  | other name => rfl
  | _ => cases h

/-- **A step is refused without a connection**, if its action is recognized. -/
theorem executeStep_of_not_connected (h : w.state ≠ .connected) {action : Action}
    (hrecognized : action.isRecognized = true) (target : String) (data : Option String) :
    executeStep b tools action target data d w = (.ok (.error (.notConnected w.state)), w) := by
  cases htool : tools.forAction? action with
  | none =>
      rw [isRecognized_of_forAction?_eq_none htool] at hrecognized
      cases hrecognized
  | some tool =>
      simp only [executeStep, htool, Play.look_bind]
      rw [Play.bind_of_ok (call_of_not_connected b d h _ _)]
      rfl

/-- A step whose action is not recognized fails in every state. -/
theorem executeStep_of_unrecognized {action : Action} (h : action.isRecognized = false)
    (target : String) (data : Option String) :
    executeStep b tools action target data d w =
      (.ok (.ok (.failed ("unsupported action: " ++ action.name))), w) := by
  cases action with
  | other name => rfl
  | _ => cases h

/-- **A check is refused without a connection.** -/
theorem validateSelector_of_not_connected (h : w.state ≠ .connected) (target : String) :
    validateSelector b tools target d w = (.ok (.error (.notConnected w.state)), w) := by
  rw [validateSelector, Play.bind_of_ok (call_of_not_connected b d h _ _)]
  rfl

end Session

end Scenarist
