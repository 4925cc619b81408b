import Scenarist.Proofs.Channel.Conversation
import Scenarist.Proofs.Session.Lifecycle

/-!
# The Handshake

A client says the same first things to each of its servers: it introduces itself, and when the
answer has come, it says so. Only then does it call tools. Whatever goes wrong before that, the
server is let go, so that the next attempt to connect starts another one; until the handshake is
over, calls of tools are refused, and nothing is said.

## Main results

* `manners_of_effect`: each operation keeps the conversations in good order.
* `connect_of_failed`: connecting that fails leaves no channel.
* `performAll_discipline`: **the discipline of the handshake**, as a whole.
-/

namespace Scenarist.Channel

/-- The turn is the call of a tool. -/
def Turn.IsCall (t : Turn) : Prop := ∃ x tool arguments, t = .asked x ∧ x.IsCall tool arguments

/-- **The handshake is over**: the introduction was answered by a result, the client has said so,
and it has called tools since. -/
def Introduced (turns : List Turn) : Prop :=
  ∃ x v line calls, turns = .asked x :: .notified introducedNotice :: calls ∧ x.IsIntroduction ∧
    line ∈ x.read ∧ Settles x.id line (.ok v) ∧ ∀ t ∈ calls, t.IsCall

/-- **Turns in good order**: an introduction, and more only if the handshake is over. -/
inductive Orderly : List Turn → Prop where
  | introducing (x : Exchange) (hx : x.IsIntroduction) : Orderly [.asked x]
  | introduced {turns : List Turn} (h : Introduced turns) : Orderly turns

/-- The handshake. -/
theorem introduced_of_decided {π : Type} {h : Server π} {at_ : π × Link} {before : List Turn}
    {x : Exchange} (hx : x.IsIntroduction) (hdecided : x.Decided h at_ before) {v : Json}
    (hending : x.ending = .ok v) : Introduced [.asked x, .notified introducedNotice] := by
  obtain ⟨skipped, line, hread, hsettles⟩ := hdecided.exists_line hending
  exact ⟨x, v, line, [], rfl, hx, by simp [hread], hsettles, by simp⟩

/-- Another tool is called. -/
theorem Introduced.call {turns : List Turn} (ht : Introduced turns) {x : Exchange} {tool : String}
    {arguments : Json} (hx : x.IsCall tool arguments) : Introduced (turns ++ [.asked x]) := by
  obtain ⟨y, v, line, calls, rfl, hy, hline, hsettles, hcalls⟩ := ht
  refine ⟨y, v, line, calls ++ [.asked x], rfl, hy, hline, hsettles, ?_⟩
  exact List.forall_mem_append.2 ⟨hcalls, by simpa using ⟨x, tool, arguments, rfl, hx⟩⟩

namespace Client

variable {π : Type} {h : Server π} {s : AutomationSettings} {c c' : Client π}

/-- **A handshake**: connecting has started a server, introduced the client to it and succeeded. -/
structure Deed.IsHandshake (d : Deed π) : Prop where
  operation_eq : d.operation = .connect
  started : d.started.isSome
  introduced : Introduced d.turns
  returned : ∃ delay, d.returned = .after delay (.connected (.ok ()))

/-- **The handshake is over** and the client has not let its server go since. -/
def Open (deeds : List (Deed π)) : Prop :=
  Since Deed.IsHandshake (fun d => d.operation ≠ .close) deeds

/-- **A record in good order**, and what the client knows of it. -/
structure Manners (done : List (Deed π)) (c : Client π) : Prop where
  orderly : ∀ v ∈ conversations done, Orderly v.turns
  initialized_iff : c.initialized = true ↔ Open done
  latest : c.initialized = true → ∃ latest older, conversations done = latest :: older ∧
    Introduced latest.turns

theorem manners_start (p : π) : Manners [] (start p) where
  orderly := by simp [conversations]
  initialized_iff := by simp [start, Open, not_since_nil]
  latest := by simp [start]

variable {done : List (Deed π)} {d : Deed π}

/-- A deed that is no handshake and does not let the server go. -/
theorem open_concat_iff (hnot : ¬ d.IsHandshake) (hd : d.operation ≠ .close) :
    Open (done ++ [d]) ↔ Open done := by
  simp [Open, since_concat_iff, hnot, hd]

/-- A handshake starts a server. -/
theorem not_isHandshake_of_not_started (hd : d.started = none) : ¬ d.IsHandshake := by
  intro hhandshake
  simpa [hd] using hhandshake.started

/-- A handshake succeeds. -/
theorem not_isHandshake_of_failed {delay : Nat} {failure : Failure}
    (hd : d.returned = .after delay (.connected (.error failure))) : ¬ d.IsHandshake := by
  rintro ⟨-, -, -, delay', hreturned⟩
  simp [hd] at hreturned

theorem open_of_handshake (hd : d.IsHandshake) : Open (done ++ [d]) :=
  since_concat_iff.2 (.inl hd)

theorem not_open_of_close (hd : d.operation = .close) : ¬ Open (done ++ [d]) := by
  rw [Open, since_concat_iff]
  rintro (hhandshake | ⟨-, hnot⟩)
  · cases hd.symm.trans hhandshake.operation_eq
  · exact hnot hd

/-- A deed without turns leaves the conversations in good order. -/
theorem Manners.silent (hm : Manners done c) (hd : d.started = none) (hturns : d.turns = [])
    (hopen : c'.initialized = true ↔ Open (done ++ [d]))
    (hlatest : c'.initialized = true → c.initialized = true) : Manners (done ++ [d]) c' := by
  have htalks : conversations (done ++ [d]) = conversations done :=
    conversations_of_silent hd hturns
  refine ⟨?_, hopen, fun hi => ?_⟩
  · rw [htalks]
    exact hm.orderly
  · rw [htalks]
    exact hm.latest (hlatest hi)

/-- A new conversation begins. -/
theorem Manners.met (hm : Manners done c) {server : π} (hd : d.started = some server)
    (horderly : Orderly d.turns) (hopen : c'.initialized = true ↔ Open (done ++ [d]))
    (hlatest : c'.initialized = true → Introduced d.turns) : Manners (done ++ [d]) c' := by
  have hconcat : conversations (done ++ [d]) = ⟨server, d.turns⟩ :: conversations done :=
    conversations_of_started hd
  refine ⟨?_, hopen, fun hi => ⟨_, _, hconcat, hlatest hi⟩⟩
  rw [hconcat, List.forall_mem_cons]
  exact ⟨horderly, hm.orderly⟩

/-- A tool is called in the latest conversation. -/
theorem Manners.called (hm : Manners done c) (hc : c.initialized = true) (hd : d.started = none)
    {x : Exchange} {tool : String} {arguments : Json} (hx : x.IsCall tool arguments)
    (hturns : d.turns = [.asked x]) (hopen : c'.initialized = true ↔ Open (done ++ [d])) :
    Manners (done ++ [d]) c' := by
  obtain ⟨latest, older, htalks, hintroduced⟩ := hm.latest hc
  have hconcat : conversations (done ++ [d]) = latest.extend d.turns :: older :=
    conversations_of_not_started hd htalks
  have hcalled : Introduced (latest.extend d.turns).turns := by
    rw [hturns]
    exact hintroduced.call hx
  have horderly := hm.orderly
  rw [htalks, List.forall_mem_cons] at horderly
  refine ⟨?_, hopen, fun _ => ⟨_, _, hconcat, hcalled⟩⟩
  rw [hconcat, List.forall_mem_cons]
  exact ⟨.introduced hcalled, horderly.2⟩

/-- **Each operation keeps the conversations in good order.** -/
theorem manners_of_effect (hm : Manners done c) (heffect : Effect h s c d c') :
    Manners (done ++ [d]) c' := by
  have hsame : ∀ {u : Client π}, u.initialized = c.initialized → ¬ d.IsHandshake →
      d.operation ≠ .close → (u.initialized = true ↔ Open (done ++ [d])) := fun hu hnot hd => by
    rw [hu, hm.initialized_iff, open_concat_iff hnot hd]
  cases heffect with
  | connectedAlready hc =>
      exact hm.silent rfl rfl (hsame rfl (not_isHandshake_of_not_started rfl) nofun) id
  | notStarted hc reason hstart =>
      exact hm.silent rfl rfl (hsame rfl (not_isHandshake_of_not_started rfl) nofun) id
  | introduced hc server hstart x hx hlimit v hending u htalk delay =>
      have hintroduced : Introduced [.asked x, .notified introducedNotice] :=
        introduced_of_decided hx (htalk.decided .fresh rfl [] x _ rfl) hending
      refine hm.met rfl (.introduced hintroduced) (iff_of_true rfl ?_) fun _ => hintroduced
      exact open_of_handshake ⟨rfl, rfl, hintroduced, delay, rfl⟩
  | refused hc server hstart x hx hlimit failure hending u htalk delay =>
      exact hm.met rfl (.introducing x hx) (hsame hc.symm (not_isHandshake_of_failed rfl) nofun)
        nofun
  | lost hc server hstart x hx hlimit v hending failure u htalk delay =>
      have hintroduced : Introduced [.asked x, .notified introducedNotice] :=
        introduced_of_decided hx (htalk.decided .fresh rfl [] x _ rfl) hending
      exact hm.met rfl (.introduced hintroduced)
        (hsame hc.symm (not_isHandshake_of_failed rfl) nofun) nofun
  | notCalled hc tool arguments =>
      exact hm.silent rfl rfl (hsame rfl (not_isHandshake_of_not_started rfl) nofun) id
  | called hc tool arguments x hx hlimit u htalk delay =>
      exact hm.called hc rfl hx rfl
        (hsame htalk.initialized (not_isHandshake_of_not_started rfl) nofun)
  | closed delay =>
      exact hm.silent rfl rfl (by simpa [Client.parted] using not_open_of_close rfl) nofun

/-! ### The discipline -/

/-- Connecting fails by the connection only. -/
theorem exists_connectFailure (failure : Failure) :
    ∃ reason, connectFailure failure = .connection reason := by
  cases failure with
  | connection reason => exact ⟨reason, rfl⟩
  | _ => exact ⟨_, rfl⟩

/-- **Connecting that fails leaves no channel.** -/
theorem connect_of_failed (hlinked : c.initialized = c.link.isSome) {delay : Nat}
    {failure : Failure} (hconnect : connect h s c = (c', .after delay (.error failure))) :
    (∃ reason, failure = .connection reason) ∧ c'.link = none ∧ c'.initialized = false := by
  obtain ⟨delay, result, started, turns, ht, heffect⟩ := connect_effect hlinked hconnect
  cases ht
  cases heffect with
  | notStarted hc reason hstart => exact ⟨⟨_, rfl⟩, by simpa [hc] using hlinked, hc⟩
  | refused => exact ⟨exists_connectFailure _, rfl, rfl⟩
  | lost => exact ⟨exists_connectFailure _, rfl, rfl⟩

/-- **Connecting without a channel starts a server**, or fails because none can be started. -/
theorem connect_of_unlinked (hlinked : c.initialized = c.link.isSome) (hnone : c.link = none)
    {t : Timed (Except Failure Unit)} (hconnect : connect h s c = (c', t)) :
    (∃ reason, h.start (h.meanwhile c.server).1 s.command s.args = .error reason ∧
      t = .after 0 (.error (.connection ("failed to start " ++ s.command ++ ": " ++ reason)))) ∨
    ∃ server turns, h.start (h.meanwhile c.server).1 s.command s.args = .ok server ∧
      Effect h s c ⟨.connect, t.map .connected, some server, turns⟩ c' := by
  obtain ⟨delay, result, started, turns, rfl, heffect⟩ := connect_effect hlinked hconnect
  have heffect' := heffect
  cases heffect' with
  | connectedAlready hc => simp [hlinked, hnone] at hc
  | notStarted hc reason hstart => exact .inl ⟨reason, hstart, rfl⟩
  | introduced hc server hstart => exact .inr ⟨server, _, hstart, heffect⟩
  | refused hc server hstart => exact .inr ⟨server, _, hstart, heffect⟩
  | lost hc server hstart => exact .inr ⟨server, _, hstart, heffect⟩

/-- **The discipline of the handshake** in the life of a client: `deeds` is its record, and `c` is
what has become of it. -/
structure Discipline (h : Server π) (s : AutomationSettings) (deeds : List (Deed π))
    (c : Client π) : Prop where
  /-- The messages that were sent are those of the conversations, of which the latest comes
  first. -/
  sent : c.sent = (conversations deeds).reverse.flatMap Conversation.messages
  orderly : ∀ v ∈ conversations deeds, Orderly v.turns
  initialized_iff : c.initialized = true ↔ Open deeds
  linked : c.initialized = true → c.link.isSome
  /-- Without a handshake no tool is called, and nothing changes. -/
  refuses : ¬ Open deeds → ∀ tool arguments,
    call h s c tool arguments = (c, .after 0 (.error (.connection "not connected")))
  /-- Connecting that fails leaves no channel. -/
  fails : ∀ c' delay failure, connect h s c = (c', .after delay (.error failure)) →
    (∃ reason, failure = .connection reason) ∧ c'.link = none ∧ c'.initialized = false
  /-- Without a channel connecting starts a server, or fails because none can be started. A new
  conversation begins with it. -/
  starts : c.link = none → ∀ c' t, connect h s c = (c', t) →
    (∃ reason, h.start (h.meanwhile c.server).1 s.command s.args = .error reason ∧
      t = .after 0 (.error (.connection ("failed to start " ++ s.command ++ ": " ++ reason)))) ∨
    ∃ d server, h.start (h.meanwhile c.server).1 s.command s.args = .ok server ∧
      Effect h s c d c' ∧ d.returned = t.map .connected ∧
      conversations (deeds ++ [d]) = ⟨server, d.turns⟩ :: conversations deeds

theorem manners_of_course {p : π} {deeds : List (Deed π)}
    (hcourse : Course h s (start p) deeds c) : Manners deeds c :=
  Course.induction (fun _ _ _ _ => manners_of_effect) (manners_start p) hcourse

/-- **The discipline of the handshake**, whatever a client is asked for and whatever its servers
do. -/
theorem performAll_discipline (h : Server π) (s : AutomationSettings) (p : π)
    (ops : List Operation) :
    ∃ deeds, Recorded h s p ops deeds ∧ Discipline h s deeds (performAll h s ops (.start p)).1 := by
  obtain ⟨deeds, hrecorded⟩ := exists_recorded h s p ops
  obtain ⟨hlinked, hledger⟩ := ledger_of_course hrecorded.course
  have hmanners : Manners deeds (performAll h s ops (.start p)).1 :=
    manners_of_course hrecorded.course
  refine ⟨deeds, hrecorded, ?_, hmanners.orderly, hmanners.initialized_iff, ?_, ?_, ?_, ?_⟩
  · rw [hledger.sent, hledger.turns, List.flatMap_assoc]
    rfl
  · intro hc
    rw [← hlinked, hc]
  · intro hclosed tool arguments
    have hc : (performAll h s ops (.start p)).1.initialized = false := by
      simpa using mt hmanners.initialized_iff.1 hclosed
    rw [call, if_pos (by simp [hc])]
    rfl
  · intro c' delay failure hconnect
    exact connect_of_failed hlinked hconnect
  · intro hnone c' t hconnect
    rcases connect_of_unlinked hlinked hnone hconnect with
      hfailed | ⟨server, turns, hstart, heffect⟩
    · exact .inl hfailed
    · exact .inr ⟨_, server, hstart, heffect, rfl, conversations_of_started rfl⟩

end Client

end Scenarist.Channel
