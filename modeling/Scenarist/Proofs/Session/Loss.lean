import Scenarist.Proofs.Session.Lifecycle

/-!
# The Loss of a Connection

A call on a connection may end in its loss. Whatever is made of calls then stops at once with an
error, so the loss is the last thing that was asked for. In every other case the connection is
still there: a failure that is no loss, and even a panic of the backend, leave it as it is.

This is a property of each operation that is begun on a connection (`Play.Tracks`). Where one
operation follows another only if the first gave no error, it is handed on from the parts to the
whole (`Play.tracks_bind`).

Without a deadline only: what is cut by a deadline is never told of a loss that comes later.

## Main results

* `Play.tracks_bind`: sequences that stop at an error.
* `Session.call_tracks`, `Session.executeStep_tracks`, `Session.validateSelector_tracks`: the
  operations that call a tool.
-/

namespace Scenarist

variable {σ α β : Type}

/-- None of the requests ended in a loss. -/
def Lossless (asked : List Event) : Prop := ∀ e ∈ asked, e.isLoss = false

/-- Requests without a loss, and then others, are requests without a loss. -/
theorem Lossless.append {first second : List Event} (h : Lossless first) (h' : Lossless second) :
    Lossless (first ++ second) := by
  intro e he
  rcases List.mem_append.1 he with he | he
  · exact h e he
  · exact h' e he

/-- Since the log was `log`, the connection **held**: nothing that was asked for lost it. -/
structure Held (log : List Event) (w : World σ) : Prop where
  state : w.state = .connected
  asked : ∃ asked, w.log = log ++ asked ∧ Lossless asked

/-- Since the log was `log`, the connection **was lost**, by what was asked for last. -/
structure Lost (log : List Event) (w : World σ) : Prop where
  state : w.state = .disconnected
  asked : ∃ asked loss, w.log = log ++ (asked ++ [loss]) ∧ Lossless asked ∧ loss.isLoss = true

/-- A connection has held if nothing was asked for. -/
theorem Held.refl {w : World σ} (h : w.state = .connected) : Held w.log w :=
  ⟨h, [], (List.append_nil _).symm, by rintro _ ⟨⟩⟩

/-- A connection that held, and then held, has held. -/
theorem Held.trans {log : List Event} {u v : World σ} (h : Held log u) (h' : Held u.log v) :
    Held log v := by
  obtain ⟨first, hfirst, hbefore⟩ := h.asked
  obtain ⟨second, hsecond, hafter⟩ := h'.asked
  exact ⟨h'.state, first ++ second, by rw [hsecond, hfirst, List.append_assoc],
    hbefore.append hafter⟩

/-- A connection that held, and then was lost, was lost. -/
theorem Held.lost {log : List Event} {u v : World σ} (h : Held log u) (h' : Lost u.log v) :
    Lost log v := by
  obtain ⟨first, hfirst, hbefore⟩ := h.asked
  obtain ⟨second, loss, hsecond, hafter, hloss⟩ := h'.asked
  refine ⟨h'.state, first ++ second, loss, ?_, hbefore.append hafter, hloss⟩
  rw [hsecond, hfirst]
  simp only [List.append_assoc]

/-- A loss that was asked for last is the only one. -/
theorem eq_of_lossless {asked made later : List Event} {last loss : Event} (hasked : Lossless asked)
    (hloss : loss.isLoss = true) (h : asked ++ [last] = made ++ loss :: later) :
    asked = made ∧ last = loss ∧ later = [] := by
  rcases List.eq_nil_or_concat later with rfl | ⟨init, x, rfl⟩
  · obtain ⟨rfl, hlast⟩ := List.append_inj' h rfl
    cases hlast
    exact ⟨rfl, rfl, rfl⟩
  · rw [List.concat_eq_append, ← List.cons_append, ← List.append_assoc] at h
    obtain ⟨rfl, -⟩ := List.append_inj' h rfl
    have hnot := hasked loss (by simp)
    rw [hloss] at hnot
    cases hnot

namespace Play

/-- What has become of the connection when a course has stopped: it was lost if the course gave an
error, and held if it gave something else or was interrupted. -/
inductive Tracked (log : List Event) :
    Except Interrupt (Except SessionError α) × World σ → Prop where
  | lost (e : SessionError) {w : World σ} (h : Lost log w) : Tracked log (.ok (.error e), w)
  | held (a : α) {w : World σ} (h : Held log w) : Tracked log (.ok (.ok a), w)
  | interrupted (i : Interrupt) {w : World σ} (h : Held log w) : Tracked log (.error i, w)

/-- Begun on a connection, and without a deadline, the course **tracks** it: it gives an error
exactly if the connection was lost. -/
def Tracks (p : Play σ (Except SessionError α)) : Prop :=
  ∀ w, w.state = .connected → Tracked w.log (p none w)

/-- What has become of a connection that held first is what becomes of it later. -/
theorem Tracked.of_held {log : List Event} {u : World σ}
    {result : Except Interrupt (Except SessionError α) × World σ} (h : Held log u)
    (hresult : Tracked u.log result) : Tracked log result := by
  cases hresult with
  | lost e hlost => exact .lost e (h.lost hlost)
  | held a hheld => exact .held a (h.trans hheld)
  | interrupted i hheld => exact .interrupted i (h.trans hheld)

/-- A course that only gives a result tracks the connection. -/
theorem tracks_ok (a : α) : Tracks (pure (.ok a) : Play σ (Except SessionError α)) :=
  fun _ hw => .held a (.refl hw)

/-- A look at the world may come first. -/
theorem tracks_look {f : World σ → Play σ (Except SessionError α)} (hf : ∀ w, Tracks (f w)) :
    Tracks (look >>= f) := fun w hw => hf w w hw

/-- **A sequence that stops at an error** tracks the connection if its parts do. -/
theorem tracks_bind {p : Play σ (Except SessionError α)}
    {f : Except SessionError α → Play σ (Except SessionError β)} (hp : Tracks p)
    (herror : ∀ e, f (.error e) = pure (.error e)) (hok : ∀ a, Tracks (f (.ok a))) :
    Tracks (p >>= f) := by
  intro w hw
  have hfirst := hp w hw
  rcases hpw : p none w with ⟨i | e | a, u⟩
  · rw [hpw] at hfirst
    rw [bind_of_error hpw]
    cases hfirst with
    | interrupted _ h => exact .interrupted i h
  · rw [hpw] at hfirst
    rw [bind_of_ok hpw, herror]
    cases hfirst with
    | lost _ h => exact .lost e h
  · rw [hpw] at hfirst
    rw [bind_of_ok hpw]
    cases hfirst with
    | held _ h => exact .of_held h (hok a u h.state)

end Play

namespace Session

variable (b : Backend σ) (tools : Toolbox)

/-- The answer of a call decides about the connection on which it was made. -/
theorem afterCall_tracked {log : List Event} {answer : CallEnd} {w : World σ}
    (hw : w.state = .connected) {e : Event} (hlog : w.log = log ++ [e])
    (he : e.isLoss = answer.isLoss) : Play.Tracked log (afterCall answer none w) := by
  have hheld (h : answer.isLoss = false) : Held log w := by
    refine ⟨hw, [e], hlog, fun x hx => ?_⟩
    rw [List.mem_singleton.1 hx, he, h]
  have hlost (h : answer.isLoss = true) : Lost log { w with state := .disconnected } :=
    ⟨rfl, [], e, hlog, by rintro _ ⟨⟩, he.trans h⟩
  cases answer with
  | panicked message => exact .interrupted _ (hheld rfl)
  | answered result =>
      cases result with
      | ok reply => exact .held _ (hheld rfl)
      | error failure =>
          cases failure with
          | connection reason => exact .lost _ (hlost rfl)
          | io reason => exact .lost _ (hlost rfl)
          | _ => exact .held _ (hheld rfl)

/-- **A call** tracks the connection on which it is made. -/
theorem call_tracks (tool : String) (arguments : Json) : (call b tool arguments).Tracks := by
  intro w hw
  rw [call_of_connected b none hw]
  rcases hcall : b.call w.backend tool arguments with ⟨s, _ | ⟨delay, answer⟩⟩
  · have hask : Play.ask (b.call · tool arguments) (.call · tool arguments ·) none w =
        (.error .cut, { w with
          backend := s
          log := w.log ++ [.call w.now tool arguments .never] }) := by
      rw [Play.ask, hcall]
      rfl
    rw [Play.bind_of_error hask]
    exact .interrupted _ ⟨hw, _, rfl, by simp [Lossless, Event.isLoss]⟩
  · have hask : Play.ask (b.call · tool arguments) (.call · tool arguments ·) none w =
        (.ok answer, { w with
          backend := s
          now := w.now + delay
          log := w.log ++ [.call w.now tool arguments (.after delay answer)] }) := by
      rw [Play.ask, hcall]
      rfl
    rw [Play.bind_of_ok hask]
    exact afterCall_tracked hw rfl rfl

/-- **A validation gives an error exactly if it has lost the connection.** -/
theorem validateSelector_tracks (target : String) : (validateSelector b tools target).Tracks :=
  Play.tracks_bind (call_tracks b _ _) (fun _ => rfl) fun _ => Play.tracks_ok _

/-- **A step gives an error exactly if it has lost the connection.** -/
theorem executeStep_tracks (action : Action) (target : String) (data : Option String) :
    (executeStep b tools action target data).Tracks := by
  rw [executeStep]
  split
  · exact Play.tracks_ok _
  · refine Play.tracks_look fun before => ?_
    refine Play.tracks_bind (call_tracks b _ _) (fun _ => rfl) fun reply => ?_
    exact Play.tracks_look fun after => Play.tracks_ok _

end Session

end Scenarist
