import Scenarist.Proofs.Session.Request

/-!
# The Life of a Session

A session is asked for operations one after another, and each comes to its end, however the
backend reacts. What state it is in can then be read off the requests that were made: it is
connected exactly if the latest connect succeeded and nothing has ended the connection since. Only
two things can: a call that ends in the loss of the connection, and closing, which is for good and
releases the backend once if there was anything to release.

The development goes from one operation to all of them. An operation that came to its end has
left the world as it was or made one request (`Effect`); each such effect keeps the invariant that
ties the state, the mark of an attempted connect and the log together (`Settled`); so the
invariant holds after any number of operations on a session that has just begun.

## Main results

* `perform_effect`: inversion of an operation.
* `settled_of_effect`, `settled_of_performAll`: the invariant, for one operation and for all.
* `performAll_of_closed`: **a closed session is closed for ever**.
* `performAll_lifecycle`: **the life of a session**, as a whole.
-/

namespace Scenarist

/-! ### Connections in a log -/

/-- An entry of the one kind was made, and since then entries of the other kind only. -/
def Since {α : Type} (P Q : α → Prop) (log : List α) : Prop :=
  ∃ before opening later, log = before ++ opening :: later ∧ P opening ∧ ∀ x ∈ later, Q x

theorem not_since_nil {α : Type} {P Q : α → Prop} : ¬ Since P Q [] := by
  rintro ⟨before, opening, later, h, -⟩
  simp at h

/-- The last entry is the first of its time, or one of those after. -/
theorem since_concat_iff {α : Type} {P Q : α → Prop} {log : List α} {a : α} :
    Since P Q (log ++ [a]) ↔ P a ∨ (Since P Q log ∧ Q a) := by
  constructor
  · rintro ⟨before, opening, later, hlog, hopening, hlater⟩
    rcases List.eq_nil_or_concat later with rfl | ⟨init, last, rfl⟩
    · obtain ⟨rfl, ha⟩ := List.append_inj' hlog rfl
      cases ha
      exact .inl hopening
    · rw [List.concat_eq_append] at hlog hlater
      rw [← List.cons_append, ← List.append_assoc] at hlog
      obtain ⟨rfl, ha⟩ := List.append_inj' hlog rfl
      cases ha
      have hinit : ∀ x ∈ init, Q x := fun x hx => hlater x (List.mem_append_left _ hx)
      exact .inr ⟨⟨before, opening, init, rfl, hopening, hinit⟩, hlater a (by simp)⟩
  · rintro (ha | ⟨⟨before, opening, later, rfl, hopening, hlater⟩, ha⟩)
    · exact ⟨log, a, [], rfl, ha, by simp⟩
    · refine ⟨before, opening, later ++ [a], by simp, hopening, ?_⟩
      exact List.forall_mem_append.2 ⟨hlater, by simpa using ha⟩

/-- The call ended in the loss of the connection. -/
def CallEnd.isLoss : CallEnd → Bool
  | .answered (.error (.connection _)) => true
  | .answered (.error (.io _)) => true
  | _ => false

namespace Event

/-- The backend was asked to connect and did. -/
def isOpening : Event → Bool
  | .connect _ (.after _ (.ok _)) => true
  | _ => false

/-- A call ended in the loss of the connection. -/
def isLoss : Event → Bool
  | .call _ _ _ (.after _ answer) => answer.isLoss
  | _ => false

end Event

/-- If all entries are of the other kind, one of the first kind is enough. -/
theorem since_iff_of_forall {α : Type} {P Q : α → Prop} {log : List α} (hlog : ∀ a ∈ log, Q a) :
    Since P Q log ↔ ∃ a ∈ log, P a := by
  constructor
  · rintro ⟨before, opening, later, rfl, hopening, -⟩
    exact ⟨opening, by simp, hopening⟩
  · rintro ⟨a, ha, hP⟩
    obtain ⟨before, later, rfl⟩ := List.append_of_mem ha
    exact ⟨before, a, later, rfl, hP, fun x hx => hlog x (by simp [hx])⟩

/-- **The connection is alive**: the latest connect succeeded, and no later call lost it. -/
def Live (log : List Event) : Prop :=
  ∃ before opening later, log = before ++ opening :: later ∧ opening.isOpening = true ∧
    ∀ e ∈ later, e.kind ≠ .connect ∧ e.isLoss = false

theorem not_live_nil : ¬ Live [] := not_since_nil

/-- The last request decides about the connection, or leaves it as it was. -/
theorem live_concat_iff {log : List Event} {e : Event} : Live (log ++ [e]) ↔
    e.isOpening = true ∨ (Live log ∧ e.kind ≠ .connect ∧ e.isLoss = false) :=
  since_concat_iff

/-- Some request of the kind was made. -/
def Requested (kind : Event.Kind) (log : List Event) : Prop := ∃ e ∈ log, e.kind = kind

instance (kind : Event.Kind) (log : List Event) : Decidable (Requested kind log) :=
  inferInstanceAs (Decidable (∃ e ∈ log, e.kind = kind))

theorem requested_concat_iff {kind : Event.Kind} {log : List Event} {e : Event} :
    Requested kind (log ++ [e]) ↔ Requested kind log ∨ e.kind = kind := by
  simp [Requested, or_and_right, exists_or]

theorem closes_concat (log : List Event) (e : Event) :
    closes (log ++ [e]) = closes log + if e.kind = .close then 1 else 0 := by
  rw [closes_append, closes, closes, List.countP_singleton]
  simp

namespace Session

/-! ### Operations -/

/-- What a session can be asked to do. -/
inductive Operation where
  | connect
  | disconnect
  | execute (action : Action) (target : String) (data : Option String)
  | validate (target : String)
deriving DecidableEq, Repr

/-- What an operation gives back. -/
inductive Returned where
  | connected (is : Bool)
  | closed
  | executed (result : Except SessionError StepResult)
  | validated (result : Except SessionError Validation)
deriving Repr

namespace Operation

/-- The operation is a step or a check. -/
def isOnPage : Operation → Bool
  | .execute _ _ _ => true
  | .validate _ => true
  | _ => false

/-- There is a tool for the operation. -/
def asksTool : Operation → Bool
  | .execute action _ _ => action.isRecognized
  | .validate _ => true
  | _ => false

end Operation

theorem isOnPage_of_asksTool {op : Operation} (h : op.asksTool = true) : op.isOnPage = true := by
  cases op with
  | connect => cases h
  | disconnect => cases h
  | _ => rfl

variable {σ : Type}

section

variable (b : Backend σ) (tools : Toolbox)

/-- One operation. -/
def perform : Operation → Play σ Returned
  | .connect => do
    let is ← connect b
    return .connected is
  | .disconnect => do
    disconnect b
    return .closed
  | .execute action target data => do
    let r ← executeStep b tools action target data
    return .executed r
  | .validate target => do
    let r ← validateSelector b tools target
    return .validated r

/-- Operations in order, each after the end of the one before. -/
def performAll : List Operation → Play σ (List Returned)
  | [] => return []
  | op :: rest => do
    let r ← perform b tools op
    let rs ← performAll rest
    return r :: rs

end

variable {b : Backend σ} {tools : Toolbox} {d : Option Nat} {w w' : World σ}

/-- **What an operation has done** that came to its end: nothing at all, or one request with what
follows from the reaction. -/
inductive Effect (w : World σ) : Operation → Returned → World σ → Prop where
  | connectedAlready (h : w.state = .connected) : Effect w .connect (.connected true) w
  | connectRefused (h : w.state = .closed) : Effect w .connect (.connected false) w
  | connected (h : w.state ≠ .connected) (h' : w.state ≠ .closed) (s : σ) (delay : Nat) :
      Effect w .connect (.connected true)
        { backend := s
          state := .connected
          attempted := true
          now := w.now + delay
          log := w.log ++ [.connect w.now (.after delay (.ok ()))] }
  | connectFailed (h : w.state ≠ .connected) (h' : w.state ≠ .closed) (s : σ) (delay : Nat)
      (failure : Failure) :
      Effect w .connect (.connected false)
        { backend := s
          state := .disconnected
          attempted := true
          now := w.now + delay
          log := w.log ++ [.connect w.now (.after delay (.error failure))] }
  | closedAlready (h : w.state = .closed) : Effect w .disconnect .closed w
  | closedUntouched (h : w.state ≠ .closed) (h' : w.attempted = false) :
      Effect w .disconnect .closed { w with state := .closed }
  | released (h : w.state ≠ .closed) (h' : w.attempted = true) (s : σ) (delay : Nat) :
      Effect w .disconnect .closed
        { backend := s
          state := .closed
          attempted := w.attempted
          now := w.now + delay
          log := w.log ++ [.close w.now (.after delay ())] }
  /-- A step or a check for which no tool can be called. -/
  | unasked (op : Operation) (r : Returned) (h : op.isOnPage = true)
      (h' : op.asksTool = true → w.state ≠ .connected) : Effect w op r w
  | called (op : Operation) (r : Returned) (h : w.state = .connected) (hop : op.asksTool = true)
      (s : σ) (delay : Nat) (tool : String) (arguments : Json) (answer : CallEnd) :
      Effect w op r
        { backend := s
          state := if answer.isLoss then .disconnected else .connected
          attempted := w.attempted
          now := w.now + delay
          log := w.log ++ [.call w.now tool arguments (.after delay answer)] }

/-! ### Inversion of operations -/

theorem connect_effect {is : Bool} (h : connect b d w = (.ok is, w')) :
    Effect w .connect (.connected is) w' := by
  by_cases hconnected : w.state = .connected
  · rw [connect_of_connected b d hconnected] at h
    cases h
    exact .connectedAlready hconnected
  · by_cases hclosed : w.state = .closed
    · rw [connect_of_closed b d hclosed] at h
      cases h
      exact .connectRefused hclosed
    · rw [connect_of_open b d hconnected hclosed] at h
      obtain ⟨result, u, hask, h⟩ := Play.bind_eq_ok_iff.1 h
      obtain ⟨s, delay, -, -, rfl⟩ := Play.ask_eq_ok_iff.1 hask
      rcases result with failure | ⟨⟩
      · cases h
        exact .connectFailed hconnected hclosed s delay failure
      · cases h
        exact .connected hconnected hclosed s delay

theorem disconnect_effect (h : disconnect b d w = (.ok (), w')) :
    Effect w .disconnect .closed w' := by
  by_cases hclosed : w.state = .closed
  · rw [disconnect_of_closed b d hclosed] at h
    cases h
    exact .closedAlready hclosed
  · cases hattempted : w.attempted with
    | false =>
        rw [disconnect_of_untouched b d hclosed hattempted] at h
        cases h
        exact .closedUntouched hclosed hattempted
    | true =>
        rw [disconnect_of_attempted b d hclosed hattempted] at h
        obtain ⟨_, u, hask, h⟩ := Play.bind_eq_ok_iff.1 h
        obtain ⟨s, delay, -, -, rfl⟩ := Play.ask_eq_ok_iff.1 hask
        cases h
        exact .released hclosed hattempted s delay

/-- The answer of a call leaves the session connected, unless it is the loss of the connection. -/
theorem afterCall_eq_ok {answer : CallEnd} {r : Except SessionError (Except Failure ToolReply)}
    (hw : w.state = .connected) (h : afterCall answer d w = (.ok r, w')) :
    w' = { w with state := if answer.isLoss then .disconnected else .connected } := by
  obtain ⟨backend, state, attempted, now, log⟩ := w
  cases hw
  cases answer with
  | panicked m => cases h
  | answered result =>
      cases result with
      | ok reply =>
          cases h
          rfl
      | error failure => cases failure <;> (cases h; rfl)

/-- A call that came to its end was made in a connected session, or not made at all. -/
theorem call_effect {tool : String} {arguments : Json} {op : Operation}
    {result : Except SessionError (Except Failure ToolReply)} (hop : op.asksTool = true)
    (h : call b tool arguments d w = (.ok result, w')) (r : Returned) : Effect w op r w' := by
  by_cases hconnected : w.state = .connected
  · rw [call_of_connected b d hconnected] at h
    obtain ⟨answer, u, hask, h⟩ := Play.bind_eq_ok_iff.1 h
    obtain ⟨s, delay, -, -, rfl⟩ := Play.ask_eq_ok_iff.1 hask
    rw [afterCall_eq_ok (by exact hconnected) h]
    exact .called op r hconnected hop s delay tool arguments answer
  · rw [call_of_not_connected b d hconnected] at h
    cases h
    exact .unasked op r (isOnPage_of_asksTool hop) fun _ => hconnected

/-- Executing a step is a call, or nothing at all. -/
theorem executeStep_effect {action : Action} {target : String} {data : Option String}
    {result : Except SessionError StepResult}
    (h : executeStep b tools action target data d w = (.ok result, w')) :
    Effect w (.execute action target data) (.executed result) w' := by
  cases htool : tools.forAction? action with
  | none =>
      simp only [executeStep, htool] at h
      obtain ⟨-, rfl⟩ := Play.pure_eq_ok_iff.1 h
      refine .unasked _ _ rfl fun hasks => ?_
      rw [Operation.asksTool, isRecognized_of_forAction?_eq_none htool] at hasks
      cases hasks
  | some tool =>
      simp only [executeStep, htool, Play.look_bind] at h
      obtain ⟨answer, u, hcall, h⟩ := Play.bind_eq_ok_iff.1 h
      have hasks : (Operation.execute action target data).asksTool = true :=
        isRecognized_of_forAction? htool
      have heffect := call_effect hasks hcall (.executed result)
      split at h
      · obtain ⟨-, rfl⟩ := Play.pure_eq_ok_iff.1 h
        exact heffect
      · rw [Play.look_bind] at h
        obtain ⟨-, rfl⟩ := Play.pure_eq_ok_iff.1 h
        exact heffect

/-- Checking a selector is a call, or nothing at all. -/
theorem validateSelector_effect {target : String} {result : Except SessionError Validation}
    (h : validateSelector b tools target d w = (.ok result, w')) :
    Effect w (.validate target) (.validated result) w' := by
  obtain ⟨answer, u, hcall, h⟩ := Play.bind_eq_ok_iff.1 h
  have heffect : Effect w (.validate target) (.validated result) u := call_effect rfl hcall _
  split at h
  · obtain ⟨-, rfl⟩ := Play.pure_eq_ok_iff.1 h
    exact heffect
  · obtain ⟨-, rfl⟩ := Play.pure_eq_ok_iff.1 h
    exact heffect

/-- **Inversion of an operation** that came to its end. -/
theorem perform_effect {op : Operation} {r : Returned}
    (h : perform b tools op d w = (.ok r, w')) : Effect w op r w' := by
  cases op with
  | connect =>
      obtain ⟨is, u, hconnect, h⟩ := Play.bind_eq_ok_iff.1 h
      obtain ⟨rfl, rfl⟩ := Play.pure_eq_ok_iff.1 h
      exact connect_effect hconnect
  | disconnect =>
      obtain ⟨_, u, hclose, h⟩ := Play.bind_eq_ok_iff.1 h
      obtain ⟨rfl, rfl⟩ := Play.pure_eq_ok_iff.1 h
      exact disconnect_effect hclose
  | execute action target data =>
      obtain ⟨result, u, hexecute, h⟩ := Play.bind_eq_ok_iff.1 h
      obtain ⟨rfl, rfl⟩ := Play.pure_eq_ok_iff.1 h
      exact executeStep_effect hexecute
  | validate target =>
      obtain ⟨result, u, hvalidate, h⟩ := Play.bind_eq_ok_iff.1 h
      obtain ⟨rfl, rfl⟩ := Play.pure_eq_ok_iff.1 h
      exact validateSelector_effect hvalidate

/-! ### The invariant -/

/-- What ties a session to its log, once it has been asked for the operations `done`. -/
structure Settled (done : List Operation) (w : World σ) : Prop where
  closed_iff : w.state = .closed ↔ .disconnect ∈ done
  connected_iff : w.state = .connected ↔ .disconnect ∉ done ∧ Live w.log
  attempted_iff : w.attempted = true ↔ Requested .connect w.log
  closes : closes w.log = if .disconnect ∈ done ∧ w.attempted = true then 1 else 0

theorem settled_start (s : σ) : Settled [] (.start s) where
  closed_iff := by simp [World.start]
  connected_iff := by simp [World.start, not_live_nil]
  attempted_iff := by simp [World.start, Requested]
  closes := rfl

/-- What leaves the world as it was, and is not meant to close the session, keeps the
invariant. -/
theorem Settled.unchanged {done : List Operation} {op : Operation} (hw : Settled done w)
    (hop : op ≠ .disconnect) : Settled (done ++ [op]) w := by
  have hmem : Operation.disconnect ∈ done ++ [op] ↔ Operation.disconnect ∈ done := by
    simp [hop.symm]
  obtain ⟨hclosed, hconnected, hattempted, hcloses⟩ := hw
  refine ⟨?_, ?_, hattempted, ?_⟩
  · rw [hclosed, hmem]
  · rw [hconnected, hmem]
  · simp only [hcloses, hmem]

/-- **One operation keeps the invariant.** -/
theorem settled_of_effect {done : List Operation} {op : Operation} {r : Returned}
    (hw : Settled done w) (h : Effect w op r w') : Settled (done ++ [op]) w' := by
  cases h with
  | connectedAlready h => exact hw.unchanged (by rintro ⟨⟩)
  | connectRefused h => exact hw.unchanged (by rintro ⟨⟩)
  | unasked op r h h' => exact hw.unchanged (by rintro rfl; cases h)
  | connected h h' s delay =>
      have hopen : Operation.disconnect ∉ done := fun hd => h' (hw.closed_iff.2 hd)
      refine ⟨by simp [hopen], ?_, ?_, ?_⟩
      · simp [live_concat_iff, Event.isOpening, hopen]
      · simp [requested_concat_iff, Event.kind]
      · rw [closes_concat, hw.closes]
        simp [hopen, Event.kind]
  | connectFailed h h' s delay failure =>
      have hopen : Operation.disconnect ∉ done := fun hd => h' (hw.closed_iff.2 hd)
      refine ⟨by simp [hopen], ?_, ?_, ?_⟩
      · simp [live_concat_iff, Event.isOpening, Event.kind]
      · simp [requested_concat_iff, Event.kind]
      · rw [closes_concat, hw.closes]
        simp [hopen, Event.kind]
  | closedAlready h =>
      have hd : Operation.disconnect ∈ done := hw.closed_iff.1 h
      refine ⟨by simp [h], by simp [h], hw.attempted_iff, ?_⟩
      simp [hw.closes, hd]
  | closedUntouched h h' =>
      refine ⟨by simp, by simp, hw.attempted_iff, ?_⟩
      simp [hw.closes, h']
  | released h h' s delay =>
      have hopen : Operation.disconnect ∉ done := fun hd => h (hw.closed_iff.2 hd)
      refine ⟨by simp, by simp, ?_, ?_⟩
      · simp [requested_concat_iff, hw.attempted_iff, Event.kind]
      · rw [closes_concat, hw.closes]
        simp [hopen, h', Event.kind]
  | called op r h hop s delay tool arguments answer =>
      obtain ⟨hopen, hlive⟩ := hw.connected_iff.1 h
      have hmem : Operation.disconnect ∉ done ++ [op] := by
        rw [List.mem_append, List.mem_singleton]
        rintro (hd | rfl)
        · exact hopen hd
        · cases hop
      refine ⟨?_, ?_, ?_, ?_⟩
      · cases hloss : answer.isLoss <;> simp [hmem]
      · rw [live_concat_iff]
        cases hloss : answer.isLoss <;>
          simp [hmem, hlive, hloss, Event.isOpening, Event.kind, Event.isLoss]
      · simp [requested_concat_iff, hw.attempted_iff, Event.kind]
      · rw [closes_concat, hw.closes]
        simp [hopen, hmem, Event.kind]

/-- **Any number of operations keep the invariant.** -/
theorem settled_of_performAll {done ops : List Operation} {rs : List Returned}
    (hw : Settled done w) (h : performAll b tools ops d w = (.ok rs, w')) :
    Settled (done ++ ops) w' := by
  induction ops generalizing done w rs with
  | nil =>
      obtain ⟨-, rfl⟩ := Play.pure_eq_ok_iff.1 h
      simpa using hw
  | cons op rest ih =>
      obtain ⟨r, u, hop, h⟩ := Play.bind_eq_ok_iff.1 h
      obtain ⟨rs', u', hrest, h⟩ := Play.bind_eq_ok_iff.1 h
      obtain ⟨-, rfl⟩ := Play.pure_eq_ok_iff.1 h
      have hsettled := ih (settled_of_effect hw (perform_effect hop)) hrest
      rwa [List.append_assoc, List.singleton_append] at hsettled

/-- Operations that came to their ends did so part by part. -/
theorem performAll_append_eq_ok {xs ys : List Operation} {rs : List Returned}
    (h : performAll b tools (xs ++ ys) d w = (.ok rs, w')) :
    ∃ first u second, performAll b tools xs d w = (.ok first, u) ∧
      performAll b tools ys d u = (.ok second, w') ∧ rs = first ++ second := by
  induction xs generalizing w rs with
  | nil => exact ⟨[], w, rs, rfl, h, rfl⟩
  | cons op rest ih =>
      obtain ⟨r, u, hop, h⟩ := Play.bind_eq_ok_iff.1 h
      obtain ⟨rs', u', hrest, h⟩ := Play.bind_eq_ok_iff.1 h
      obtain ⟨rfl, rfl⟩ := Play.pure_eq_ok_iff.1 h
      obtain ⟨first, v, second, hfirst, hsecond, rfl⟩ := ih hrest
      refine ⟨r :: first, v, second, ?_, hsecond, rfl⟩
      rw [performAll, Play.bind_of_ok hop, Play.bind_of_ok hfirst]
      rfl

/-! ### Sessions that are not connected -/

/-- Without a connection no operation calls a tool, even if it does not come to its end. -/
theorem perform_log_of_not_connected (b : Backend σ) (tools : Toolbox)
    (h : w.state ≠ .connected) (op : Operation) (d : Option Nat) :
    ∃ asked, (perform b tools op d w).2.log = w.log ++ asked ∧ ∀ e ∈ asked, e.kind ≠ .call := by
  cases op with
  | connect =>
      obtain ⟨asked, hlog, hasked⟩ := connect_log b d w
      refine ⟨asked, by rw [perform, Play.bind_log fun _ _ _ => rfl, hlog], fun e he => ?_⟩
      rw [hasked e he]
      decide
  | disconnect =>
      obtain ⟨asked, hlog, hasked⟩ := disconnect_log b d w
      refine ⟨asked, by rw [perform, Play.bind_log fun _ _ _ => rfl, hlog], fun e he => ?_⟩
      rw [hasked e he]
      decide
  | execute action target data =>
      refine ⟨[], ?_, by simp⟩
      rw [perform, Play.bind_log fun _ _ _ => rfl, List.append_nil]
      cases hrecognized : action.isRecognized with
      | true => rw [executeStep_of_not_connected b d h hrecognized]
      | false => rw [executeStep_of_unrecognized b d hrecognized]
  | validate target =>
      refine ⟨[], ?_, by simp⟩
      rw [perform, Play.bind_log fun _ _ _ => rfl, List.append_nil,
        validateSelector_of_not_connected b d h]

/-- A closed session comes to the end of every operation at once. -/
theorem perform_of_closed (b : Backend σ) (tools : Toolbox) (h : w.state = .closed)
    (op : Operation) (d : Option Nat) :
    ∃ r, perform b tools op d w = (.ok r, w) ∧ (op = .connect → r = .connected false) := by
  have hnot : w.state ≠ .connected := by
    rw [h]
    rintro ⟨⟩
  cases op with
  | connect =>
      rw [perform, Play.bind_of_ok (connect_of_closed b d h)]
      exact ⟨_, rfl, fun _ => rfl⟩
  | disconnect =>
      rw [perform, Play.bind_of_ok (disconnect_of_closed b d h)]
      exact ⟨_, rfl, nofun⟩
  | execute action target data =>
      cases hrecognized : action.isRecognized with
      | true =>
          rw [perform, Play.bind_of_ok (executeStep_of_not_connected b d hnot hrecognized _ _)]
          exact ⟨_, rfl, nofun⟩
      | false =>
          rw [perform, Play.bind_of_ok (executeStep_of_unrecognized b d hrecognized _ _)]
          exact ⟨_, rfl, nofun⟩
  | validate target =>
      rw [perform, Play.bind_of_ok (validateSelector_of_not_connected b d hnot _)]
      exact ⟨_, rfl, nofun⟩

/-- **A closed session is closed for ever**, whatever it is asked to do. -/
theorem performAll_of_closed (b : Backend σ) (tools : Toolbox) (h : w.state = .closed)
    (ops : List Operation) (d : Option Nat) :
    ∃ rs, performAll b tools ops d w = (.ok rs, w) ∧
      ∀ i : Nat, ops[i]? = some .connect → rs[i]? = some (.connected false) := by
  induction ops with
  | nil => exact ⟨[], rfl, by simp⟩
  | cons op rest ih =>
      obtain ⟨r, hr, hconnect⟩ := perform_of_closed b tools h op d
      obtain ⟨rs, hrs, hconnects⟩ := ih
      refine ⟨r :: rs, ?_, fun i hi => ?_⟩
      · rw [performAll, Play.bind_of_ok hr, Play.bind_of_ok hrs]
        rfl
      · cases i with
        | zero =>
            have hop : op = .connect := by simpa using hi
            rw [hconnect hop]
            rfl
        | succ i => exact hconnects i hi

/-- The first closing releases the backend if it was ever asked to connect, and nothing does
after that. -/
theorem closes_of_disconnect {before after : List Operation} {rs : List Returned}
    {u : World σ} (hu : Settled before u)
    (h : performAll b tools (.disconnect :: after) d u = (.ok rs, w)) :
    closes w.log = if Requested .connect u.log then 1 else 0 := by
  obtain ⟨r, v, hclose, h⟩ := Play.bind_eq_ok_iff.1 h
  obtain ⟨rs', w', hafter, h⟩ := Play.bind_eq_ok_iff.1 h
  obtain ⟨-, rfl⟩ := Play.pure_eq_ok_iff.1 h
  have heffect := perform_effect hclose
  have hv := settled_of_effect hu heffect
  have hclosed : v.state = .closed := hv.closed_iff.2 (by simp)
  have hattempted : v.attempted = u.attempted := by cases heffect <;> rfl
  obtain ⟨rs'', hquiet, -⟩ := performAll_of_closed b tools hclosed after d
  rw [hquiet] at hafter
  cases hafter
  simp [hv.closes, hattempted, hu.attempted_iff]

/-! ### The life of a session -/

/-- **The life of a session** that began with the backend in the state `s` and was asked for `ops`,
each of which came to its end; `w` is the world after the last one. -/
structure Lifecycle (b : Backend σ) (tools : Toolbox) (s : σ) (d : Option Nat)
    (ops : List Operation) (w : World σ) : Prop where
  /-- Whatever is asked for next, a tool is called only if the session is connected. -/
  calls : ∀ op d' asked, (perform b tools op d' w).2.log = w.log ++ asked →
    Requested .call asked → w.state = .connected
  /-- If it is not, checks and steps are refused and change nothing. -/
  refuses : w.state ≠ .connected → ∀ d' target,
    perform b tools (.validate target) d' w =
      (.ok (.validated (.error (.notConnected w.state))), w) ∧
    ∀ action data, action.isRecognized = true →
      perform b tools (.execute action target data) d' w =
        (.ok (.executed (.error (.notConnected w.state))), w)
  /-- It is connected exactly if the latest connect succeeded, no later call lost the connection,
  and the session was not closed. -/
  connected_iff : w.state = .connected ↔ .disconnect ∉ ops ∧ Live w.log
  /-- But for closing, only a call that loses the connection ends it. -/
  stays : w.state = .connected → ∀ op d' r v, op ≠ .disconnect →
    perform b tools op d' w = (.ok r, v) →
    v.state = .connected ∨ ∃ e, v.log = w.log ++ [e] ∧ e.isLoss = true
  /-- Closing is for good: whatever is asked for later, connecting is refused and nothing ever
  changes, so nothing is asked of the backend. -/
  closed : .disconnect ∈ ops → w.state = .closed ∧ ∀ later d', ∃ rs,
    performAll b tools later d' w = (.ok rs, w) ∧
    ∀ i : Nat, later[i]? = some .connect → rs[i]? = some (.connected false)
  unreleased : .disconnect ∉ ops → closes w.log = 0
  /-- The backend is released once if it was asked to connect before the session was first
  closed, and never otherwise. -/
  released : ∀ before after rs u, ops = before ++ .disconnect :: after → .disconnect ∉ before →
    performAll b tools before d (.start s) = (.ok rs, u) →
    closes w.log = if Requested .connect u.log then 1 else 0

/-- What can end a connection. -/
theorem connected_or_loss_of_effect {op : Operation} {r : Returned} (h : Effect w op r w')
    (hconnected : w.state = .connected) (hop : op ≠ .disconnect) :
    w'.state = .connected ∨ ∃ e, w'.log = w.log ++ [e] ∧ e.isLoss = true := by
  cases h with
  | connectedAlready => exact .inl hconnected
  | connectRefused h =>
      rw [hconnected] at h
      cases h
  | connected h => exact absurd hconnected h
  | connectFailed h => exact absurd hconnected h
  | closedAlready => exact absurd rfl hop
  | closedUntouched => exact absurd rfl hop
  | released => exact absurd rfl hop
  | unasked => exact .inl hconnected
  | called op r h hop s delay tool arguments answer =>
      cases hloss : answer.isLoss with
      | true => exact .inr ⟨_, rfl, hloss⟩
      | false => exact .inl (by simp)

/-- **The life of a session** goes as it should, whatever the backend does. -/
theorem performAll_lifecycle {s : σ} {ops : List Operation} {rs : List Returned}
    (h : performAll b tools ops d (.start s) = (.ok rs, w)) : Lifecycle b tools s d ops w := by
  have hw : Settled ops w := settled_of_performAll (settled_start s) h
  refine ⟨?_, ?_, hw.connected_iff, ?_, ?_, ?_, ?_⟩
  · rintro op d' asked hlog ⟨e, he, hcall⟩
    refine Classical.byContradiction fun hnot => ?_
    obtain ⟨asked', hlog', hasked⟩ :=
      perform_log_of_not_connected b tools hnot op d'
    obtain rfl : asked = asked' := List.append_cancel_left (hlog.symm.trans hlog')
    exact hasked e he hcall
  · intro hnot d' target
    refine ⟨?_, fun action data hrecognized => ?_⟩
    · rw [perform, Play.bind_of_ok (validateSelector_of_not_connected b d' hnot target)]
      rfl
    · rw [perform, Play.bind_of_ok (executeStep_of_not_connected b d' hnot hrecognized target data)]
      rfl
  · intro hconnected op d' r v hop hperform
    exact connected_or_loss_of_effect (perform_effect hperform) hconnected hop
  · intro hd
    have hclosed : w.state = .closed := hw.closed_iff.2 hd
    exact ⟨hclosed, fun later d' => performAll_of_closed b tools hclosed later d'⟩
  · intro hd
    simp [hw.closes, hd]
  · rintro before after rs' u rfl - hbefore
    obtain ⟨first, v, second, hfirst, hrest, rfl⟩ := performAll_append_eq_ok h
    rw [hbefore] at hfirst
    cases hfirst
    exact closes_of_disconnect (settled_of_performAll (settled_start s) hbefore) hrest

/-- A backend that counts its requests. It refuses the first connect; the first call takes too
long, the second is answered by an error, and the third breaks the connection. -/
def flaky : Backend Nat where
  connect n := (n + 1, .after 1 (if n = 0 then .error (.connection "refused") else .ok ()))
  call n _ _ := (n + 1, .after 5 (.answered (
    if n = 2 then .error (.timeout "click") else if n = 3 then .ok ⟨true, "no such element"⟩
    else .error (.io "broken pipe"))))
  close n := (n + 1, .after 1 ())

/-- A session is used before it is connected, connected at the second attempt, lost and connected
again, and closed twice. -/
def errands : List Operation := [
  .validate "#login", .connect, .connect, .execute .click "#login" none, .validate "#user",
  .execute .fill "#user" (some "ada"), .execute .hover "#menu" none, .connect, .disconnect,
  .connect, .disconnect]

theorem performAll_lifecycle_errands :
    ∃ rs w, performAll flaky .bySelector errands none (.start 0) = (.ok rs, w) ∧
      w.log.map (fun e => (e.kind, e.time)) = [(.connect, 0), (.connect, 1), (.call, 2),
        (.call, 7), (.call, 12), (.connect, 17), (.close, 18)] ∧
      Lifecycle flaky .bySelector 0 none errands w := by
  have hends : (performAll flaky .bySelector errands none (.start 0)).1.isOk = true := by
    decide +kernel
  have hlog : (performAll flaky .bySelector errands none (.start 0)).2.log.map
      (fun e => (e.kind, e.time)) = [(.connect, 0), (.connect, 1), (.call, 2), (.call, 7),
        (.call, 12), (.connect, 17), (.close, 18)] := by decide +kernel
  rcases hrun : performAll flaky .bySelector errands none (.start 0) with ⟨i | rs, w⟩
  · rw [hrun] at hends
    cases hends
  · rw [hrun] at hlog
    exact ⟨rs, w, rfl, hlog, performAll_lifecycle hrun⟩

end Session

end Scenarist
