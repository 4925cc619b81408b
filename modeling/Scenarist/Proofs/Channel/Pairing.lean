import Scenarist.Proofs.Channel.Conversation

/-!
# Requests Pair up with Responses

A client numbers its requests in order, and never begins anew, whatever channel they go over. So a
response belongs to one request at most, and a response that comes too late, when its request has
timed out, is skipped: the request after it looks for its own number among the lines that are not
yet read.

A request ends with a result, or with an error that the server reports, only by a response; and
this is the first response to it among the lines that the server has written and that earlier
exchanges of the conversation have not consumed. A request that ends otherwise has no response among
the lines that were read for it, and it fails for one of three reasons (`Exchange.Unanswered`): the
server was silent, as many lines were read as its limit allows, or the channel was lost.

## Main results

* `Exchange.Decided.among`: what decides an answered request is the last line read for it.
* `performAll_pairing`: **requests pair up with responses** in the life of a client.
-/

namespace Scenarist.Channel

/-- **The response decides**: of these lines, the first response to the request settles it. It is
the response to no other request. -/
def Exchange.DecidedAmong (x : Exchange) (lines : List (List Char)) : Prop :=
  ∃ skipped line rest, lines = skipped ++ line :: rest ∧
    (∀ cs ∈ skipped, ¬ IsResponse x.id cs) ∧ Settles x.id line x.ending ∧
    ∀ id, IsResponse id line → id = x.id

/-- A response brings a result or an error that the server reports. -/
theorem Exchange.isAnswered_of_settles {x : Exchange} {line : List Char}
    (hsettles : Settles x.id line x.ending) : x.IsAnswered := by
  obtain ⟨m, -, -, herror, hresult⟩ := hsettles
  cases he : m.error with
  | none => exact .result _ (hresult he)
  | some e => exact .error _ _ (herror e he)

section

variable {π : Type} {h : Server π} {at_ : π × Link} {before : List Turn} {x : Exchange}

/-- An unanswered request has no result, nor an error that the server reports. -/
theorem Exchange.Unanswered.not_isAnswered (hx : x.Unanswered h at_ before) : ¬ x.IsAnswered := by
  rintro (⟨v, hv⟩ | ⟨code, reason, hremote⟩)
  · obtain ⟨failure, hfailure⟩ := hx.exists_error
    cases hv.symm.trans hfailure
  · cases hx with
    | silent hending => cases hremote.symm.trans hending
    | spent hending => cases hremote.symm.trans hending
    | lost failure hending hloss =>
        cases hremote.symm.trans hending
        cases hloss

/-- An answered request was decided by the last line that was read for it. -/
theorem Exchange.Decided.among (hx : x.Decided h at_ before) (hanswered : x.IsAnswered)
    (rest : List (List Char)) : x.DecidedAmong (x.read ++ rest) := by
  cases hx with
  | answered skipped line hread hfirst hsettles =>
      refine ⟨skipped, line, rest, by simp [hread], hfirst, hsettles, fun id hid => ?_⟩
      exact hid.id_unique hsettles.isResponse
  | unanswered hnone hwhy => exact absurd hanswered hwhy.not_isAnswered

/-- No response was read for a request that was not answered, for one of the reasons. -/
theorem Exchange.Decided.unanswered_of_not (hx : x.Decided h at_ before) (hnot : ¬ x.IsAnswered) :
    (∀ cs ∈ x.read, ¬ IsResponse x.id cs) ∧ x.Unanswered h at_ before := by
  cases hx with
  | answered skipped line hread hfirst hsettles =>
      exact absurd (Exchange.isAnswered_of_settles hsettles) hnot
  | unanswered hnone hwhy => exact ⟨hnone, hwhy⟩

end

namespace Client

variable {π : Type} {h : Server π} {s : AutomationSettings} {c : Client π}

/-- **An operation gives back what its request came to**, within the limit that is set for it. -/
inductive Deed.Tells (s : AutomationSettings) (d : Deed π) (x : Exchange) : Prop where
  | called (tool : String) (arguments : Json) (delay : Nat)
      (hd : d.operation = .call tool arguments) (hx : x.IsCall tool arguments)
      (hlimit : x.limit = s.callTimeoutMs)
      (hreturned : d.returned = .after delay (.called (x.ending.bind ToolResult.replyOf)))
  | connected (v : Json) (hd : d.operation = .connect) (hx : x.IsIntroduction)
      (hlimit : x.limit = s.connectTimeoutMs) (hending : x.ending = .ok v)
  | refused (failure : Failure) (delay : Nat) (hd : d.operation = .connect) (hx : x.IsIntroduction)
      (hlimit : x.limit = s.connectTimeoutMs) (hending : x.ending = .error failure)
      (hreturned : d.returned = .after delay (.connected (.error (connectFailure failure))))

theorem tells_of_effect {d : Deed π} {c' : Client π} (heffect : Effect h s c d c') {x : Exchange}
    (hx : .asked x ∈ d.turns) : d.Tells s x := by
  cases heffect with
  | introduced hc server hstart y hy hlimit v hending =>
      obtain rfl : x = y := by simpa using hx
      exact .connected v rfl hy hlimit hending
  | refused hc server hstart y hy hlimit failure hending u htalk delay =>
      obtain rfl : x = y := by simpa using hx
      exact .refused failure delay rfl hy hlimit hending rfl
  | lost hc server hstart y hy hlimit v hending =>
      obtain rfl : x = y := by simpa using hx
      exact .connected v rfl hy hlimit hending
  | called hc tool arguments y hy hlimit u htalk delay =>
      obtain rfl : x = y := by simpa using hx
      exact .called tool arguments delay rfl hy hlimit rfl
  | _ => simp at hx

/-- **Requests pair up with responses** in the life of a client: `deeds` is its record, and `c` is
what has become of it. -/
structure Pairing (h : Server π) (s : AutomationSettings) (deeds : List (Deed π)) (c : Client π) :
    Prop where
  /-- The messages that were sent, over all channels. -/
  sent : c.sent = (turnsOf deeds).flatMap Turn.messages
  /-- The turns belong to the conversations, of which the latest comes first. -/
  held : turnsOf deeds = (conversations deeds).reverse.flatMap Conversation.turns
  /-- Each request has a larger number than all before it, over whatever channel it goes. -/
  increasing : ((turnsOf deeds).filterMap Turn.id?).Pairwise (· < ·)
  /-- What is left to be read of the channel is what the conversation has not consumed. -/
  unread : ∀ l, c.link = some l → ∃ latest older, conversations deeds = latest :: older ∧
    latest.inbound h = latest.read ++ l.inbox
  /-- An answered request is decided among the lines that the turns before it have not consumed.
  The lines that are read for another one hold no response to it, and it fails for one of the
  reasons. -/
  decided : ∀ v ∈ conversations deeds, ∀ before x after, v.turns = before ++ .asked x :: after →
    ∃ rest, v.inbound h = before.flatMap Turn.read ++ (x.read ++ rest) ∧
      (x.IsAnswered → x.DecidedAmong (x.read ++ rest)) ∧
      (¬ x.IsAnswered → (∀ cs ∈ x.read, ¬ IsResponse x.id cs) ∧
        x.Unanswered h (v.server, .fresh) before)
  tells : ∀ d ∈ deeds, ∀ x, .asked x ∈ d.turns → d.Tells s x

/-- A ledger pairs requests with responses. -/
theorem Ledger.pairing {p : π} {deeds : List (Deed π)} (hk : Ledger h s deeds c)
    (hcourse : Course h s (start p) deeds c) : Pairing h s deeds c where
  sent := hk.sent
  held := hk.turns
  increasing := by
    rw [hk.ids]
    exact List.pairwise_lt_range'
  unread l hl := by
    obtain ⟨latest, older, htalks, hreaches⟩ := hk.channel l hl
    refine ⟨latest, older, htalks, ?_⟩
    rw [Conversation.inbound, hreaches]
    rfl
  decided v hv before x after hturns := by
    obtain ⟨unread, hunread⟩ := hk.read v hv
    have hdecided := hk.decided v hv before x after hturns
    refine ⟨after.flatMap Turn.read ++ unread, ?_, fun hanswered => ?_, hdecided.unanswered_of_not⟩
    · rw [← hunread, Conversation.read, hturns]
      simp [Turn.read]
    · exact hdecided.among hanswered _
  tells d hd x hx := by
    obtain ⟨u, v, heffect⟩ := hcourse.exists_effect hd
    exact tells_of_effect heffect hx

/-- **Requests pair up with responses**, whatever a client is asked for and whatever its servers
do. -/
theorem performAll_pairing (h : Server π) (s : AutomationSettings) (p : π) (ops : List Operation) :
    ∃ deeds, Recorded h s p ops deeds ∧ Pairing h s deeds (performAll h s ops (.start p)).1 := by
  obtain ⟨deeds, hrecorded⟩ := exists_recorded h s p ops
  obtain ⟨-, hledger⟩ := ledger_of_course hrecorded.course
  exact ⟨deeds, hrecorded, hledger.pairing hrecorded.course⟩

/-- A server that answers the first call of a tool too late, when the second one is there; the late
answer is marked as an error. -/
def tardy : Server Nat where
  start _ _ _ := .ok 0
  take n _ :=
    let response (id : Nat) (isError : Bool) : List Char := line (envelope [("id", .nat id),
      ("result", .object [("isError", .bool isError)])])
    (n + 1, if n = 0 then [response 1 false] else if n = 3 then [response 2 true, response 3 false]
      else [], false)
  lingers _ := false

example : (performAll tardy .default [.connect, .call "click" .null, .call "fill" .null]
    (.start 0)).2.map (fun t => match t with
      | .after _ (.called (.ok reply)) => some reply.isError
      | _ => none) = [none, none, some false] := by
  decide +kernel

end Client

end Scenarist.Channel
