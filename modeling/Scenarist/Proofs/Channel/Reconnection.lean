import Scenarist.Proofs.Channel.Handshake

/-!
# Sessions over a Client

A session and the client that it uses as its backend each have a state of their own. When a call
ends in the loss of the channel, the session is disconnected, but the client stays initialized and
keeps the dead channel until it is closed. So a session that was connected before does not get
another server by connecting again: the client takes itself for connected, does nothing, and the
session is connected to the dead channel. Only a session that never was connected shakes hands with
a server when it connects.

What the client takes itself for can be read off the log of the session (`Informed`), however its
course of events goes.

## Main results

* `performAll_informed`: the client is initialized exactly if some connect has succeeded and it was
  not closed since.
* `connect_of_lost`: a session that has lost its channel is connected to it again.
* `connect_introduces_iff`: **connecting shakes hands** exactly if no connect has succeeded before.
-/

namespace Scenarist

namespace Channel.Client

variable {π : Type} {h : Server π} {s : AutomationSettings} {c c' : Client π}

/-! ### What a client takes itself for -/

/-- A client is initialized after connecting exactly if connecting has succeeded. -/
theorem connect_initialized_iff (hlinked : c.initialized = c.link.isSome)
    {t : Timed (Except Failure Unit)} (hconnect : connect h s c = (c', t)) :
    c'.initialized = true ↔ ∃ delay, t = .after delay (.ok ()) := by
  obtain ⟨delay, result, started, turns, rfl, heffect⟩ := connect_effect hlinked hconnect
  cases heffect with
  | connectedAlready hc => simp [hc]
  | notStarted hc => simp [hc]
  | introduced => simp
  | refused => simp [parted]
  | lost => simp [parted]

/-- A client that is initialized does nothing when it is to connect. -/
theorem connect_of_initialized (hc : c.initialized = true) :
    connect h s c = (c, .after 0 (.ok ())) := by
  rw [connect, if_pos hc]

/-- Calling a tool leaves the client initialized or not, as it was. -/
theorem call_initialized (hlinked : c.initialized = c.link.isSome) {tool : String}
    {arguments : Json} {t : Timed (Except Failure ToolReply)}
    (hcall : call h s c tool arguments = (c', t)) :
    c'.initialized = c.initialized ∧ c'.initialized = c'.link.isSome := by
  obtain ⟨delay, result, turns, -, heffect⟩ := call_effect hlinked hcall
  refine ⟨?_, linked_of_effect hlinked heffect⟩
  cases heffect with
  | notCalled => rfl
  | called hc tool arguments x hx hlimit u htalk => exact htalk.initialized

/-- **The client takes itself for what the log says**: it has a channel and is initialized exactly
if some connect has succeeded and it was not closed since. -/
structure Informed (w : World (Client π)) : Prop where
  linked : w.backend.initialized = w.backend.link.isSome
  initialized_iff : w.backend.initialized = true ↔
    Since (fun e => e.isOpening = true) (fun e => e.kind ≠ .close) w.log

/-- A client without a channel is not initialized, and nothing was asked for. -/
theorem informed_start (p : π) : Informed (.start (start p)) where
  linked := rfl
  initialized_iff := by simp [World.start, start, not_since_nil]

/-- The state of the session and the time do not matter. -/
theorem Informed.congr {w w' : World (Client π)} (hw : Informed w)
    (hbackend : w'.backend = w.backend) (hlog : w'.log = w.log) : Informed w' := by
  refine ⟨?_, ?_⟩
  · rw [hbackend]
    exact hw.linked
  · rw [hbackend, hlog]
    exact hw.initialized_iff

/-- A change that leaves the client and the log alone keeps it informed. -/
theorem informed_change {f : World (Client π) → World (Client π)}
    (hbackend : ∀ w, (f w).backend = w.backend) (hlog : ∀ w, (f w).log = w.log) :
    (Play.change f).Keeps Informed :=
  Play.keeps_change fun w hw => hw.congr (hbackend w) (hlog w)

/-- What is put together from parts that keep the client informed keeps it informed. -/
theorem informed_compositional :
    Play.Compositional fun (α : Type) (p : Play (Client π) α) => p.Keeps Informed :=
  Play.keeps_compositional fun _ _ hw => hw.congr rfl rfl

/-- A request of the client that does with it what its event says. -/
theorem ask_informed {α : Type} {request : Client π → Client π × Timed α}
    {event : Nat → Timed α → Event}
    (hrequest : ∀ c at_, c.initialized = c.link.isSome →
      (request c).1.initialized = (request c).1.link.isSome ∧
      ((request c).1.initialized = true ↔ (event at_ (request c).2).isOpening = true ∨
        (c.initialized = true ∧ (event at_ (request c).2).kind ≠ .close))) :
    (Play.ask request event).Keeps Informed := by
  intro d w hw
  obtain ⟨now, hnow⟩ := Play.ask_world request event d w
  obtain ⟨hlinked, hiff⟩ := hrequest w.backend w.now hw.linked
  rw [hnow]
  refine ⟨hlinked, ?_⟩
  rw [since_concat_iff, ← hw.initialized_iff]
  exact hiff

/-- Connecting keeps the client informed. -/
theorem connect_informed : (Session.connect (backend h s)).Keeps Informed := by
  refine Session.connect_of_ask informed_compositional
    (informed_change (fun _ => rfl) fun _ => rfl) (ask_informed fun c at_ hlinked => ?_)
    fun _ => informed_change (fun _ => rfl) fun _ => rfl
  rcases hconnect : connect h s c with ⟨u, t⟩
  obtain ⟨_, _, started, turns, -, heffect⟩ := connect_effect hlinked hconnect
  have hiff := connect_initialized_iff hlinked hconnect
  have hkept : c.initialized = true → u.initialized = true := fun hc => by
    rw [connect_of_initialized hc] at hconnect
    cases hconnect
    exact hc
  have hopening : (Event.connect at_ t).isOpening = true ↔ ∃ delay, t = .after delay (.ok ()) := by
    rcases t with _ | ⟨delay, failure | _⟩ <;> simp [Event.isOpening]
  simp only [backend, hconnect]
  refine ⟨linked_of_effect hlinked heffect, ?_⟩
  rw [hopening, ← hiff]
  simpa [Event.kind] using hkept

/-- Calling a tool keeps the client informed, also if that loses the channel. -/
theorem call_informed (tool : String) (arguments : Json) :
    (Session.call (backend h s) tool arguments).Keeps Informed := by
  refine Session.call_of_ask informed_compositional tool arguments
    (ask_informed fun c at_ hlinked => ?_) (informed_change (fun _ => rfl) fun _ => rfl)
    fun _ => Play.keeps_interrupt _
  rcases hcall : call h s c tool arguments with ⟨u, t⟩
  obtain ⟨hsame, hlinked'⟩ := call_initialized hlinked hcall
  simp only [backend, hcall]
  refine ⟨hlinked', ?_⟩
  simp [hsame, Event.isOpening, Event.kind]

/-- Closing keeps the client informed. -/
theorem disconnect_informed : (Session.disconnect (backend h s)).Keeps Informed := by
  refine Session.disconnect_of_ask informed_compositional (ask_informed fun c at_ hlinked => ?_)
    (informed_change (fun _ => rfl) fun _ => rfl)
  exact ⟨rfl, by simp [backend, close, Event.isOpening, Event.kind]⟩

/-- Each operation keeps the client informed. -/
theorem perform_informed (tools : Toolbox) (op : Session.Operation) :
    (Session.perform (backend h s) tools op).Keeps Informed := by
  have hp := informed_compositional (π := π)
  cases op with
  | connect => exact hp.ofBind connect_informed fun _ => hp.ofPure _
  | disconnect => exact hp.ofBind disconnect_informed fun _ => hp.ofPure _
  | execute action target data =>
      exact hp.ofBind (Session.executeStep_of_call hp call_informed tools action target data)
        fun _ => hp.ofPure _
  | validate target =>
      exact hp.ofBind (Session.validateSelector_of_call hp call_informed tools target) fun _ =>
        hp.ofPure _

/-- **The client takes itself for what the log says**, whatever the session is asked for and however
that goes. -/
theorem performAll_informed (tools : Toolbox) (ops : List Session.Operation) :
    (Session.performAll (backend h s) tools ops).Keeps Informed := by
  have hp := informed_compositional (π := π)
  induction ops with
  | nil => exact hp.ofPure _
  | cons op rest ih =>
      exact hp.ofBind (perform_informed tools op) fun _ => hp.ofBind ih fun _ => hp.ofPure _

/-- A client that began without a channel is informed after any operations. -/
theorem informed_of_performAll {tools : Toolbox} {ops : List Session.Operation} {d : Option Nat}
    {p : π} {r : Except Interrupt (List Session.Returned)} {w : World (Client π)}
    (hrun : Session.performAll (backend h s) tools ops d (.start (.start p)) = (r, w)) :
    Informed w := by
  have hinformed := performAll_informed (h := h) (s := s) tools ops d _ (informed_start p)
  rwa [hrun] at hinformed

/-! ### Connecting again -/

/-- **An introduction**: a server was started, and it has answered the introduction. -/
def Introduces (h : Server π) (s : AutomationSettings) (c c' : Client π) : Prop :=
  ∃ d, Effect h s c d c' ∧ d.IsHandshake

/-- A client that is initialized does not introduce itself. -/
theorem not_introduces_of_initialized (hc : c.initialized = true) : ¬ Introduces h s c c' := by
  rintro ⟨d, heffect, hhandshake⟩
  have hstarted := hhandshake.started
  cases heffect with
  | introduced hc' => simp [hc] at hc'
  | refused hc' => simp [hc] at hc'
  | lost hc' => simp [hc] at hc'
  | _ => cases hstarted

/-- A client without a channel introduces itself when connecting succeeds. -/
theorem introduces_of_connect (hlinked : c.initialized = c.link.isSome)
    (hc : c.initialized = false) {delay : Nat}
    (hconnect : connect h s c = (c', .after delay (.ok ()))) : Introduces h s c c' := by
  obtain ⟨delay, result, started, turns, ht, heffect⟩ := connect_effect hlinked hconnect
  cases ht
  refine ⟨_, heffect, ?_⟩
  cases heffect with
  | connectedAlready hc' => simp [hc] at hc'
  | introduced hc' server hstart x hx hlimit v hending u htalk =>
      have hdecided := htalk.decided .fresh rfl [] x _ rfl
      have hintroduced := introduced_of_decided hx hdecided hending
      exact ⟨rfl, rfl, hintroduced, delay, rfl⟩

variable {tools : Toolbox} {d d' : Option Nat} {w w' : World (Client π)}

/-- A disconnected session that connects has asked the client to. -/
theorem connect_of_session (hstate : w.state = .disconnected)
    (hconnect : Session.connect (backend h s) d w = (.ok true, w')) :
    ∃ delay, connect h s w.backend = (w'.backend, .after delay (.ok ())) := by
  rw [Session.connect_of_open _ _ (by simp [hstate]) (by simp [hstate])] at hconnect
  obtain ⟨result, u, hask, hafter⟩ := Play.bind_eq_ok_iff.1 hconnect
  obtain ⟨c', delay, hrequest, -, rfl⟩ := Play.ask_eq_ok_iff.1 hask
  cases result with
  | error failure => cases hafter
  | ok result =>
      cases hafter
      exact ⟨delay, hrequest⟩

/-- A session that is disconnected has not closed its backend. -/
theorem ne_close_of_disconnected {p : Client π} {ops : List Session.Operation}
    {rs : List Session.Returned}
    (hrun : Session.performAll (backend h s) tools ops d (.start p) = (.ok rs, w))
    (hstate : w.state = .disconnected) : ∀ e ∈ w.log, e.kind ≠ .close := by
  have hw : Session.Settled ops w := Session.settled_of_performAll (Session.settled_start p) hrun
  have hopen : Session.Operation.disconnect ∉ ops := fun hd => by
    have hclosed := hw.closed_iff.2 hd
    simp [hstate] at hclosed
  have hcloses : closes w.log = 0 := by rw [hw.closes, if_neg (fun hd => hopen hd.1)]
  intro e he hkind
  have hpos : 0 < closes w.log := List.countP_pos_iff.2 ⟨e, he, by simp [hkind]⟩
  omega

/-- The client of a disconnected session takes itself for connected exactly if some connect has
succeeded. -/
theorem initialized_iff_of_disconnected {p : π} {ops : List Session.Operation}
    {rs : List Session.Returned}
    (hrun : Session.performAll (backend h s) tools ops d (.start (.start p)) = (.ok rs, w))
    (hstate : w.state = .disconnected) :
    w.backend.initialized = true ↔ ∃ e ∈ w.log, e.isOpening = true := by
  rw [(informed_of_performAll hrun).initialized_iff,
    since_iff_of_forall (ne_close_of_disconnected hrun hstate)]

/-- **A session that has lost its channel is connected to it again**, at once, and with nothing
being started, written or read. -/
theorem connect_of_lost {p : π} {ops : List Session.Operation} {rs : List Session.Returned}
    (hrun : Session.performAll (backend h s) tools ops d (.start (.start p)) = (.ok rs, w))
    (hstate : w.state = .disconnected) (hlost : ∃ e ∈ w.log, e.isOpening = true) :
    Session.connect (backend h s) none w = (.ok true, { w with
      state := .connected
      attempted := true
      log := w.log ++ [.connect w.now (.after 0 (.ok ()))] }) := by
  have hc : w.backend.initialized = true := (initialized_iff_of_disconnected hrun hstate).2 hlost
  have hask : Play.ask (backend h s).connect .connect none
      { w with state := .connecting, attempted := true } = (.ok (.ok ()), { w with
        state := .connecting
        attempted := true
        log := w.log ++ [.connect w.now (.after 0 (.ok ()))] }) :=
    Play.ask_eq_ok_iff.2 ⟨w.backend, 0, connect_of_initialized hc, by simp, rfl⟩
  rw [Session.connect_of_open _ _ (by simp [hstate]) (by simp [hstate]), Play.bind_of_ok hask]
  rfl

/-- **Connecting shakes hands** with a server exactly if no connect of the session has succeeded
before. Otherwise it does nothing: nothing is started, written or read, and the session is connected
to the channel that it has lost. -/
theorem connect_introduces_iff {p : π} {ops : List Session.Operation} {rs : List Session.Returned}
    (hrun : Session.performAll (backend h s) tools ops d (.start (.start p)) = (.ok rs, w))
    (hstate : w.state = .disconnected)
    (hconnect : Session.connect (backend h s) d' w = (.ok true, w')) :
    (Introduces h s w.backend w'.backend ↔ ∀ e ∈ w.log, e.isOpening = false) ∧
      ((∃ e ∈ w.log, e.isOpening = true) → w'.backend = w.backend) := by
  have hiff := initialized_iff_of_disconnected hrun hstate
  obtain ⟨delay, hclient⟩ := connect_of_session hstate hconnect
  cases hc : w.backend.initialized with
  | true =>
      obtain ⟨e, he, hopening⟩ := hiff.1 hc
      rw [connect_of_initialized hc] at hclient
      have hsame : w'.backend = w.backend := (Prod.mk.inj hclient).1.symm
      refine ⟨iff_of_false (not_introduces_of_initialized hc) fun hnone => ?_, fun _ => hsame⟩
      simp [hnone e he] at hopening
  | false =>
      have hnone : ∀ e ∈ w.log, e.isOpening = false := by simpa [hc] using hiff
      have hintroduces := introduces_of_connect (informed_of_performAll hrun).linked hc hclient
      refine ⟨iff_of_true hintroduces hnone, ?_⟩
      rintro ⟨e, he, hopening⟩
      simp [hnone e he] at hopening

/-- A server that answers an introduction and ends at the first call of a tool. Its state is the
number of lines it has taken. -/
def fragile : Server Nat where
  start _ _ _ := .ok 0
  take n _ :=
    (n + 1, if n = 0 then [line (envelope [("id", .nat 1), ("result", .object [])])] else [], n = 2)
  lingers _ := false

/-- A session is connected, and a step loses the channel. -/
def lossyErrand : List Session.Operation := [.connect, .execute .click "#login" none]

/-- A session that has lost its channel is connected to it again, and the server has ended. -/
theorem connect_introduces_iff_fragile :
    ∃ rs w w', Session.performAll (backend fragile .default) .bySelector lossyErrand none
        (.start (.start 0)) = (.ok rs, w) ∧
      Session.connect (backend fragile .default) none w = (.ok true, w') ∧
      w.backend.link.map Link.ended = some true ∧ w'.backend = w.backend ∧
      ¬ Introduces fragile .default w.backend w'.backend := by
  have hends : (Session.performAll (backend fragile .default) .bySelector lossyErrand none
      (.start (.start 0))).1.isOk = true := by decide +kernel
  have hstate : (Session.performAll (backend fragile .default) .bySelector lossyErrand none
      (.start (.start 0))).2.state = .disconnected := by decide +kernel
  have hlog : (Session.performAll (backend fragile .default) .bySelector lossyErrand none
      (.start (.start 0))).2.log.any Event.isOpening = true := by decide +kernel
  have hlink : (Session.performAll (backend fragile .default) .bySelector lossyErrand none
      (.start (.start 0))).2.backend.link.map Link.ended = some true := by decide +kernel
  rcases hrun : Session.performAll (backend fragile .default) .bySelector lossyErrand none
    (.start (.start 0)) with ⟨i | rs, w⟩
  · rw [hrun] at hends
    cases hends
  · rw [hrun] at hstate hlog hlink
    have hlost : ∃ e ∈ w.log, e.isOpening = true := List.any_eq_true.1 hlog
    have hconnect := connect_of_lost hrun hstate hlost
    obtain ⟨hiff, hsame⟩ := connect_introduces_iff hrun hstate hconnect
    refine ⟨rs, w, _, rfl, hconnect, hlink, hsame hlost, fun hintroduces => ?_⟩
    obtain ⟨e, he, hopening⟩ := hlost
    simp [hiff.1 hintroduces e he] at hopening

end Channel.Client

end Scenarist
