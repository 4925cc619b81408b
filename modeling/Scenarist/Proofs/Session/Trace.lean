import Scenarist.Proofs.Session.Lifecycle

/-!
# Traces of Calls

What a course asks of the backend while the session is connected, said together with how it ends.
A call may break a course off: by the loss of the connection, by a panic of the backend, or by never
coming back. A course whose calls are all answered has asked for all it is to ask for, and what it
gives is read off the answers; otherwise the call that broke it off is the last one.

`Play.Plays` says this of a course, with one property of complete traces and their value, and one of
traces that were broken off. Where one course follows another only if the first gave no error, the
traces are put one after the other (`Play.plays_bind`), so that what is asked for may depend on the
answers received by then.

## Main results

* `Play.plays_bind`: sequences that stop at an error.
* `Session.call_plays`, `Session.validateSelector_plays`, `Session.executeStep_plays`: the
  operations that call a tool.
-/

namespace Scenarist

variable {σ α β : Type}

namespace Event

/-- How the call interrupts whoever made it, if it does. -/
def interrupt? : Event → Option Interrupt
  | .call _ _ _ .never => some .cut
  | .call _ _ _ (.after _ (.panicked message)) => some (.panicked message)
  | _ => none

/-- The call **breaks off** what it was made for: it loses the connection, it panics, or it never
comes back. -/
def breaksOff (e : Event) : Bool := e.isLoss || e.interrupt?.isSome

/-- A call that interrupts does not lose the connection. -/
theorem isLoss_of_interrupt? {e : Event} {i : Interrupt} (h : e.interrupt? = some i) :
    e.isLoss = false := by
  cases e with
  | call at_ tool arguments reaction =>
      cases reaction with
      | never => rfl
      | after delay answer =>
          cases answer with
          | panicked message => rfl
          | answered result => cases h
  | _ => rfl

end Event

/-- None of the calls broke off what it was made for. -/
def Unbroken (calls : List Event) : Prop := ∀ e ∈ calls, e.breaksOff = false

/-- A call that broke nothing off has not lost the connection. -/
theorem Unbroken.not_isLoss {calls : List Event} (h : Unbroken calls) {e : Event}
    (he : e ∈ calls) : e.isLoss = false := by
  have hnot := h e he
  rw [Event.breaksOff, Bool.or_eq_false_iff] at hnot
  exact hnot.1

/-- Two such traces make up another one. -/
theorem Unbroken.append {first second : List Event} (h : Unbroken first) (h' : Unbroken second) :
    Unbroken (first ++ second) :=
  List.forall_mem_append.2 ⟨h, h'⟩

namespace Play

/-- What a course has come to that was begun on a connection, when the log was `log`. Either all its
calls were answered, and they are a full trace for the value; or the last one broke it off. -/
inductive Played (Full : α → List Event → Prop) (Part : List Event → Prop) (log : List Event) :
    Except Interrupt (Except SessionError α) × World σ → Prop where
  | whole (a : α) {calls : List Event} {w : World σ} (hstate : w.state = .connected)
      (hlog : w.log = log ++ calls) (hcalls : Unbroken calls) (htrace : Full a calls) :
      Played Full Part log (.ok (.ok a), w)
  | lost (e : SessionError) {made : List Event} {last : Event} {w : World σ}
      (hstate : w.state = .disconnected) (hlog : w.log = log ++ (made ++ [last]))
      (hmade : Unbroken made) (hlast : last.isLoss = true) (htrace : Part (made ++ [last])) :
      Played Full Part log (.ok (.error e), w)
  | interrupted (i : Interrupt) {made : List Event} {last : Event} {w : World σ}
      (hstate : w.state = .connected) (hlog : w.log = log ++ (made ++ [last]))
      (hmade : Unbroken made) (hlast : last.interrupt? = some i) (htrace : Part (made ++ [last])) :
      Played Full Part log (.error i, w)

/-- Begun on a connection, and without a deadline, the course **plays** full traces, or parts of
traces that were broken off. -/
def Plays (Full : α → List Event → Prop) (Part : List Event → Prop)
    (p : Play σ (Except SessionError α)) : Prop :=
  ∀ w, w.state = .connected → Played Full Part w.log (p none w)

section

variable {Full : α → List Event → Prop} {Full' : β → List Event → Prop}
variable {Part Part' : List Event → Prop}

/-- A course that only gives a result makes no calls. -/
theorem plays_ok {a : α} (h : Full a []) : Plays Full Part (pure (.ok a) : Play σ _) :=
  fun _ hw => .whole a hw (List.append_nil _).symm (by rintro _ ⟨⟩) h

/-- A look at the world may come first. -/
theorem plays_look {f : World σ → Play σ (Except SessionError α)}
    (hf : ∀ w, Plays Full Part (f w)) : Plays Full Part (look >>= f) := fun w hw => hf w w hw

/-- What is said of the calls may be said more weakly. -/
theorem Plays.mono {Full₁ : α → List Event → Prop} {p : Play σ (Except SessionError α)}
    (hp : Plays Full Part p) (hfull : ∀ a calls, Full a calls → Full₁ a calls)
    (hpart : ∀ calls, Part calls → Part' calls) : Plays Full₁ Part' p := by
  intro w hw
  have hplayed := hp w hw
  generalize p none w = result at hplayed ⊢
  cases hplayed with
  | whole a hstate hlog hcalls htrace =>
      exact .whole a hstate hlog hcalls (hfull a _ htrace)
  | lost e hstate hlog hmade hlast htrace =>
      exact .lost e hstate hlog hmade hlast (hpart _ htrace)
  | interrupted i hstate hlog hmade hlast htrace =>
      exact .interrupted i hstate hlog hmade hlast (hpart _ htrace)

/-- What follows a part of a course is a trace of the whole if it goes on from the part. -/
theorem Played.of_append {log first : List Event}
    {result : Except Interrupt (Except SessionError α) × World σ} (hfirst : Unbroken first)
    (h : Played (fun a later => Full a (first ++ later)) (fun later => Part (first ++ later))
      (log ++ first) result) : Played Full Part log result := by
  cases h with
  | whole a hstate hlog hcalls htrace =>
      exact .whole a hstate (by rw [hlog, List.append_assoc]) (hfirst.append hcalls) htrace
  | lost e hstate hlog hmade hlast htrace =>
      exact .lost e hstate (by rw [hlog, List.append_assoc, List.append_assoc])
        (hfirst.append hmade) hlast (by rwa [List.append_assoc])
  | interrupted i hstate hlog hmade hlast htrace =>
      exact .interrupted i hstate (by rw [hlog, List.append_assoc, List.append_assoc])
        (hfirst.append hmade) hlast (by rwa [List.append_assoc])

/-- **A sequence that stops at an error** plays the traces of its parts one after the other. -/
theorem plays_bind {p : Play σ (Except SessionError α)}
    {f : Except SessionError α → Play σ (Except SessionError β)} (hp : Plays Full Part p)
    (herror : ∀ e, f (.error e) = pure (.error e)) (hpart : ∀ calls, Part calls → Part' calls)
    (hok : ∀ a first, Full a first → Plays (fun b later => Full' b (first ++ later))
      (fun later => Part' (first ++ later)) (f (.ok a))) :
    Plays Full' Part' (p >>= f) := by
  intro w hw
  have hfirst := hp w hw
  generalize hpw : p none w = result at hfirst
  cases hfirst with
  | whole a hstate hlog hcalls htrace =>
      rw [bind_of_ok hpw]
      have hrest := hok a _ htrace _ hstate
      rw [hlog] at hrest
      exact .of_append hcalls hrest
  | lost e hstate hlog hmade hlast htrace =>
      rw [bind_of_ok hpw, herror]
      exact .lost e hstate hlog hmade hlast (hpart _ htrace)
  | interrupted i hstate hlog hmade hlast htrace =>
      rw [bind_of_error hpw]
      exact .interrupted i hstate hlog hmade hlast (hpart _ htrace)

end

end Play

namespace Session

variable (b : Backend σ)

/-- The trace is the call of a tool, with whatever reaction. -/
def OneCall (tool : String) (arguments : Json) (calls : List Event) : Prop :=
  ∃ at_ reaction, calls = [.call at_ tool arguments reaction]

/-- The trace is the call of a tool, with an answer. -/
def OneAnswered (tool : String) (arguments : Json) (answer : Except Failure ToolReply)
    (calls : List Event) : Prop :=
  ∃ at_ delay, calls = [.call at_ tool arguments (.after delay (.answered answer))]

/-- A call with that answer is a call. -/
theorem OneAnswered.oneCall {tool : String} {arguments : Json} {answer : Except Failure ToolReply}
    {calls : List Event} (h : OneAnswered tool arguments answer calls) :
    OneCall tool arguments calls := by
  obtain ⟨at_, delay, rfl⟩ := h
  exact ⟨at_, _, rfl⟩

/-- The reaction to a call decides how it is played. -/
theorem afterCall_played {tool : String} {arguments : Json} {at_ delay : Nat} {answer : CallEnd}
    {log : List Event} {w : World σ} (hw : w.state = .connected)
    (hlog : w.log = log ++ [.call at_ tool arguments (.after delay answer)]) :
    Play.Played (OneAnswered tool arguments) (OneCall tool arguments) log
      (afterCall answer none w) := by
  have hcall : OneCall tool arguments ([] ++ [.call at_ tool arguments (.after delay answer)]) :=
    ⟨at_, _, rfl⟩
  cases answer with
  | panicked message => exact .interrupted _ hw hlog (by rintro _ ⟨⟩) rfl hcall
  | answered result =>
      have hwhole (h : (CallEnd.answered result).isLoss = false) :
          Play.Played (OneAnswered tool arguments) (OneCall tool arguments) log
            (.ok (.ok result), w) :=
        .whole result hw hlog (by simp [Unbroken, Event.breaksOff, Event.isLoss, h,
          Event.interrupt?]) ⟨at_, delay, rfl⟩
      cases result with
      | ok reply => exact hwhole rfl
      | error failure =>
          cases failure with
          | connection reason | io reason =>
              exact .lost (w := { w with state := .disconnected }) _ rfl hlog
                (by rintro _ ⟨⟩) rfl hcall
          | _ => exact hwhole rfl

/-- **A call** is played as one call. -/
theorem call_plays (tool : String) (arguments : Json) :
    (call b tool arguments).Plays (OneAnswered tool arguments) (OneCall tool arguments) := by
  intro w hw
  rw [call_of_connected b none hw]
  rcases hcall : b.call w.backend tool arguments with ⟨s, _ | ⟨delay, answer⟩⟩
  · have hask : Play.ask (b.call · tool arguments) (.call · tool arguments ·) none w =
        (.error .cut, { w with
          backend := s
          log := w.log ++ [.call w.now tool arguments .never] }) := by
      rw [Play.ask, hcall]
      rfl
    rw [Play.bind_of_error hask]
    have hcall : OneCall tool arguments ([] ++ [.call w.now tool arguments .never]) := ⟨_, _, rfl⟩
    exact .interrupted _ hw rfl (by rintro _ ⟨⟩) rfl hcall
  · have hask : Play.ask (b.call · tool arguments) (.call · tool arguments ·) none w =
        (.ok answer, { w with
          backend := s
          now := w.now + delay
          log := w.log ++ [.call w.now tool arguments (.after delay answer)] }) := by
      rw [Play.ask, hcall]
      rfl
    rw [Play.bind_of_ok hask]
    exact afterCall_played hw rfl

variable (tools : Toolbox)

/-- **The check of a selector** is played as one call of the checking tool, and its result is read
off the answer. -/
theorem validateSelector_plays (target : String) :
    (validateSelector b tools target).Plays
      (fun v calls => ∃ answer, v = validation target answer ∧
        OneAnswered tools.validateSelector.name
          (Template.render target none tools.validateSelector.arguments) answer calls)
      (OneCall tools.validateSelector.name
        (Template.render target none tools.validateSelector.arguments)) := by
  refine Play.plays_bind (call_plays b _ _) (fun _ => rfl) (fun _ h => h) fun answer first h => ?_
  exact Play.plays_ok ⟨answer, rfl, by rwa [List.append_nil]⟩

/-- **The execution of a step** for which there is a tool is played as one call of that tool. -/
theorem executeStep_plays {action : Action} {tool : Tool}
    (htool : tools.forAction? action = some tool) (target : String) (data : Option String) :
    (executeStep b tools action target data).Plays
      (fun _ => OneCall tool.name (Template.render target data tool.arguments))
      (OneCall tool.name (Template.render target data tool.arguments)) := by
  simp only [executeStep, htool]
  refine Play.plays_look fun before => ?_
  refine Play.plays_bind (call_plays b _ _) (fun _ => rfl) (fun _ h => h) fun answer first h => ?_
  refine Play.plays_look fun after => Play.plays_ok ?_
  rw [List.append_nil]
  exact h.oneCall

end Session

end Scenarist
