import Scenarist.Channel.Client

/-!
# Requests and Their Responses

A client reads the lines of its server one after another until the response to its request is
among them. What it says meanwhile are answers to requests of the server, and what it reads is
consumed, whether the response came or not. So what the client has written and what it has read
determine each other only through the server: `deliver` feeds the messages to the server with
nobody reading, and `Traffic` compares a client with that.

A response is recognized by its id and by having no method (`IsResponse`). The first such line
decides how the request ends (`Settles`); without one, the request ends in a timeout or in a loss
of the channel. A timeout has one of two causes: everything is read and the server stays silent, or
as many lines were read as the limit allows (`InVain`, `Exchange.Unanswered`).

## Main results

* `write_behind`: lines that are not yet read play no part in writing.
* `awaitResponse_waiting`, `Waiting.traffic`: what waiting for a response reads and writes, and what
  comes of it.
* `ask_talk`: **a request as a whole**.
-/

namespace Scenarist

/-- The failure is the loss of a channel. -/
def Failure.isLoss : Failure → Bool
  | .connection _ => true
  | .io _ => true
  | _ => false

namespace Channel

/-! ### Lines -/

/-- The message is the response to the request `id`: it has that id, and no method. -/
structure Message.Responds (id : Nat) (m : Message) : Prop where
  id_eq : m.id = some (.nat id)
  method_eq : m.method = none

/-- The line is the response to the request `id`. -/
def IsResponse (id : Nat) (cs : List Char) : Prop :=
  ∃ m, Message.ofLine? cs = some m ∧ m.Responds id

/-- **How a response settles its request**: with the error that it reports, and otherwise with its
result. -/
def Settles (id : Nat) (cs : List Char) (ending : Except Failure Json) : Prop :=
  ∃ m, Message.ofLine? cs = some m ∧ m.Responds id ∧
    (∀ e, m.error = some e → ending = .error (.remote e.code e.message)) ∧
    (m.error = none → ending = .ok (m.result.getD .null))

theorem Settles.isResponse {id : Nat} {cs : List Char} {ending : Except Failure Json}
    (h : Settles id cs ending) : IsResponse id cs := by
  obtain ⟨m, hm, hresponds, -⟩ := h
  exact ⟨m, hm, hresponds⟩

/-- A line is the response to one request at most. -/
theorem IsResponse.id_unique {id id' : Nat} {cs : List Char} (h : IsResponse id cs)
    (h' : IsResponse id' cs) : id = id' := by
  obtain ⟨m, hm, hresponds⟩ := h
  obtain ⟨m', hm', hresponds'⟩ := h'
  obtain rfl : m = m' := Option.some.inj (hm.symm.trans hm')
  have hid : some (Json.nat id) = some (Json.nat id') := hresponds.id_eq.symm.trans hresponds'.id_eq
  simpa [Json.nat] using hid

/-- What is answered to the request of the server on a line, if it holds one. -/
def answerTo? (cs : List Char) : Option Json :=
  match Message.ofLine? cs with
  | some ⟨some i, some method, _, _⟩ => some (answer i method)
  | _ => none

/-- The connection with some more lines to be read first. -/
def Link.behind (lines : List (List Char)) (l : Link) : Link := ⟨lines ++ l.inbox, l.ended⟩

theorem beq_nat_iff {i : Json} {id : Nat} : (i == Json.nat id) = true ↔ i = .nat id := by
  show Json.beq i (.number (.natural id)) = true ↔ i = .number (.natural id)
  cases i <;> simp [Json.beq]

namespace Client

/-- What a line is to a client that waits for the response to the request `id`. -/
inductive Regarded (id : Nat) (cs : List Char) : Step → Prop where
  | skip (hnot : ¬ IsResponse id cs) (hanswer : answerTo? cs = none) : Regarded id cs .skip
  | answer {i : Json} {method : String} (hnot : ¬ IsResponse id cs)
      (hanswer : answerTo? cs = some (Channel.answer i method)) :
      Regarded id cs (.answer i method)
  | finish {ending : Except Failure Json} (hsettles : Settles id cs ending)
      (hanswer : answerTo? cs = none) : Regarded id cs (.finish ending)

/-- A line is the response, a request of the server, or neither. -/
theorem stepOf_regarded (id : Nat) (cs : List Char) : Regarded id cs (stepOf (.nat id) cs) := by
  cases hm : Message.ofLine? cs with
  | none =>
      have hnot : ¬ IsResponse id cs := by simp [IsResponse, hm]
      have hanswer : answerTo? cs = none := by simp [answerTo?, hm]
      simpa [stepOf, hm] using Regarded.skip hnot hanswer
  | some m =>
      have hiff : IsResponse id cs ↔ m.Responds id := by simp [IsResponse, hm]
      obtain ⟨i, method, result, error⟩ := m
      cases i with
      | none =>
          have hnot : ¬ IsResponse id cs := fun h => nomatch (hiff.1 h).id_eq
          have hanswer : answerTo? cs = none := by simp [answerTo?, hm]
          simpa [stepOf, hm] using Regarded.skip hnot hanswer
      | some i =>
          cases method with
          | some method =>
              have hnot : ¬ IsResponse id cs := fun h => nomatch (hiff.1 h).method_eq
              have hanswer : answerTo? cs = some (Channel.answer i method) := by
                simp [answerTo?, hm]
              simpa [stepOf, hm] using Regarded.answer hnot hanswer
          | none =>
              have hanswer : answerTo? cs = none := by simp [answerTo?, hm]
              by_cases hid : i = .nat id
              · have hsettles : Settles id cs (Message.outcome ⟨some i, none, result, error⟩) :=
                  ⟨_, hm, ⟨congrArg some hid, rfl⟩, by rintro e rfl; rfl, by rintro rfl; rfl⟩
                simpa [stepOf, hm, beq_nat_iff, hid] using Regarded.finish hsettles hanswer
              · have hnot : ¬ IsResponse id cs := fun h => hid (Option.some.inj (hiff.1 h).id_eq)
                simpa [stepOf, hm, beq_nat_iff, hid] using Regarded.skip hnot hanswer

variable {π : Type} {h : Server π} {c c' c'' : Client π}

/-! ### Writing -/

/-- **Lines that are not yet read play no part in writing.** -/
theorem write_behind (server : π) (lines : List (List Char)) (l : Link) (cs : List Char) :
    write h server (l.behind lines) cs =
      ((write h server l cs).1, (write h server l cs).2.1.behind lines,
        (write h server l cs).2.2) := by
  cases hended : l.ended with
  | true => simp [write, Link.behind, hended]
  | false =>
      rcases hmeanwhile : h.meanwhile server with ⟨p, before, ended⟩
      cases ended with
      | true => simp [write, Link.behind, hended, hmeanwhile]
      | false =>
          cases hrefuses : h.refuses p with
          | some reason => simp [write, Link.behind, hended, hmeanwhile, hrefuses]
          | none => simp [write, Link.behind, hended, hmeanwhile, hrefuses]

/-- Writing fails only by the loss of the channel. -/
theorem isLoss_of_write {server : π} {l : Link} {cs : List Char} {failure : Failure}
    (hwrite : (write h server l cs).2.2 = .error failure) : failure.isLoss = true := by
  simp only [write] at hwrite
  split at hwrite
  · cases hwrite
    rfl
  · split at hwrite
    · cases hwrite
      rfl
    · split at hwrite
      · cases hwrite
        rfl
      · cases hwrite

/-- The running server and the connection to it after messages were written, nothing being
read. -/
def deliver (h : Server π) : π × Link → List Json → π × Link
  | at_, [] => at_
  | (server, l), message :: rest =>
    let (server, l, _) := write h server l (line message)
    deliver h (server, l) rest

theorem deliver_append (at_ : π × Link) (first second : List Json) :
    deliver h at_ (first ++ second) = deliver h (deliver h at_ first) second := by
  induction first generalizing at_ with
  | nil => rfl
  | cons message rest ih => exact ih _

theorem deliver_behind (server : π) (lines : List (List Char)) (l : Link) (messages : List Json) :
    deliver h (server, l.behind lines) messages =
      ((deliver h (server, l) messages).1, (deliver h (server, l) messages).2.behind lines) := by
  induction messages generalizing server l with
  | nil => rfl
  | cons message rest ih =>
      rw [deliver, write_behind]
      exact ih _ _

/-! ### What goes over a channel -/

/-- **What went over the channel** from one state of a client to another: the messages that it
sent and the lines that it read. With nobody reading, the same messages would have left these lines
to be read first. -/
structure Traffic (h : Server π) (c : Client π) (messages : List Json) (read : List (List Char))
    (c' : Client π) : Prop where
  sent : c'.sent = c.sent ++ messages
  initialized : c'.initialized = c.initialized
  link : ∃ l l', c.link = some l ∧ c'.link = some l' ∧
    deliver h (c.server, l) messages = (c'.server, l'.behind read)

theorem Traffic.refl (hlink : c.link.isSome) : Traffic h c [] [] c := by
  obtain ⟨l, hl⟩ := Option.isSome_iff_exists.1 hlink
  exact ⟨by simp, rfl, l, l, hl, hl, rfl⟩

theorem Traffic.trans {messages messages' : List Json} {read read' : List (List Char)}
    (first : Traffic h c messages read c') (second : Traffic h c' messages' read' c'') :
    Traffic h c (messages ++ messages') (read ++ read') c'' := by
  obtain ⟨l, l', hl, hl', hfirst⟩ := first.link
  obtain ⟨u, l'', hu, hl'', hsecond⟩ := second.link
  obtain rfl : u = l' := Option.some.inj (hu.symm.trans hl')
  refine ⟨?_, second.initialized.trans first.initialized, l, l'', hl, hl'', ?_⟩
  · rw [second.sent, first.sent, List.append_assoc]
  · rw [deliver_append, hfirst, deliver_behind, hsecond]
    simp [Link.behind]

/-- What goes over a channel does not depend on the number of the next request. -/
theorem Traffic.renumbered {n : Nat} {messages : List Json} {read : List (List Char)}
    (ht : Traffic h { c with nextId := n } messages read c') : Traffic h c messages read c' :=
  ⟨ht.sent, ht.initialized, ht.link⟩

/-- The channel is still there. -/
theorem Traffic.isSome {messages : List Json} {read : List (List Char)}
    (ht : Traffic h c messages read c') : c'.link.isSome := by
  obtain ⟨-, l', -, hl', -⟩ := ht.link
  simp [hl']

/-- A line is read. -/
theorem traffic_read {cs : List Char} {rest : List (List Char)} {ended : Bool}
    (hlink : c.link = some ⟨cs :: rest, ended⟩) :
    Traffic h c [] [cs] { c with link := some ⟨rest, ended⟩ } :=
  ⟨by simp, rfl, _, _, hlink, rfl, rfl⟩

/-- **A message is sent.** -/
theorem send_traffic (hlink : c.link.isSome) {message : Json} {r : Except Failure Unit}
    (hsend : send h c message = (c', r)) :
    Traffic h c [message] [] c' ∧ c'.nextId = c.nextId ∧
      ∀ failure, r = .error failure → failure.isLoss = true := by
  obtain ⟨l, hl⟩ := Option.isSome_iff_exists.1 hlink
  simp only [send, hl] at hsend
  cases hsend
  refine ⟨⟨rfl, rfl, l, _, hl, rfl, rfl⟩, rfl, fun failure hr => ?_⟩
  exact isLoss_of_write hr

/-! ### Waiting for a response -/

/-- **The client has waited in vain** when it has read these lines, being allowed to read so many:
everything is read and the server stays silent, or no more lines may be read. -/
inductive InVain (h : Server π) (patience : Nat) (c' : Client π) (read : List (List Char)) :
    Prop where
  | silent (hlink : c'.link = some ⟨[], false⟩) (hsilent : h.output c'.server = .silent)
  | spent (hlength : read.length = patience)

/-- One more line is read, and one more may be. -/
theorem InVain.cons {patience : Nat} {read : List (List Char)} (hvain : InVain h patience c' read)
    (cs : List Char) : InVain h (patience + 1) c' (cs :: read) := by
  cases hvain with
  | silent hlink hsilent => exact .silent hlink hsilent
  | spent hlength => exact .spent (congrArg (· + 1) hlength)

/-- When everything is read, either the server stays silent or the channel is lost. -/
theorem exhausted_eq_none_iff {server : π} {ended : Bool} :
    exhausted h server ended = none ↔ ended = false ∧ h.output server = .silent := by
  cases ended with
  | true => simp [exhausted]
  | false => cases houtput : h.output server <;> simp [exhausted, houtput]

theorem isLoss_of_exhausted {server : π} {ended : Bool} {failure : Failure}
    (hlost : exhausted h server ended = some failure) : failure.isLoss = true := by
  simp only [exhausted] at hlost
  split at hlost
  · cases hlost
    rfl
  · split at hlost
    · cases hlost
    · cases hlost
      rfl
    · cases hlost
      rfl

theorem inVain_of_exhausted {ended : Bool} (hlink : c.link = some ⟨[], ended⟩)
    (hsilent : exhausted h c.server ended = none) (patience : Nat) : InVain h patience c [] := by
  obtain ⟨rfl, houtput⟩ := exhausted_eq_none_iff.1 hsilent
  exact .silent hlink houtput

/-- **What comes of waiting** for the response to the request `id` when these lines have been read,
of so many that may be. Without a response the client waits in vain or loses the channel. -/
inductive Awaited (h : Server π) (id patience : Nat) (c' : Client π) :
    List (List Char) → Option (Except Failure Json) → Prop where
  | answered {skipped : List (List Char)} {line : List Char} {ending : Except Failure Json}
      (hfirst : ∀ cs ∈ skipped, ¬ IsResponse id cs) (hsettles : Settles id line ending) :
      Awaited h id patience c' (skipped ++ [line]) (some ending)
  | inVain {read : List (List Char)} (hnone : ∀ cs ∈ read, ¬ IsResponse id cs)
      (hvain : InVain h patience c' read) : Awaited h id patience c' read none
  | lost {read : List (List Char)} {failure : Failure} (hnone : ∀ cs ∈ read, ¬ IsResponse id cs)
      (hloss : failure.isLoss = true) : Awaited h id patience c' read (some (.error failure))

/-- A line is read first that is no response. -/
theorem Awaited.cons {id patience : Nat} {cs : List Char} {read : List (List Char)}
    {r : Option (Except Failure Json)} (hnot : ¬ IsResponse id cs)
    (ha : Awaited h id patience c' read r) : Awaited h id (patience + 1) c' (cs :: read) r := by
  have hcons : ∀ {lines : List (List Char)}, (∀ x ∈ lines, ¬ IsResponse id x) →
      ∀ x ∈ cs :: lines, ¬ IsResponse id x := fun hlines => List.forall_mem_cons.2 ⟨hnot, hlines⟩
  cases ha with
  | answered hfirst hsettles => exact .answered (hcons hfirst) hsettles
  | inVain hnone hvain => exact .inVain (hcons hnone) (hvain.cons cs)
  | lost hnone hloss => exact .lost (hcons hnone) hloss

/-- When everything is read, nothing comes but the loss of the channel. -/
theorem awaited_exhausted (id patience : Nat) {ended : Bool} (hlink : c.link = some ⟨[], ended⟩) :
    Awaited h id patience c [] ((exhausted h c.server ended).map .error) := by
  have hnone : ∀ cs ∈ ([] : List (List Char)), ¬ IsResponse id cs := by simp
  cases hlost : exhausted h c.server ended with
  | none => exact .inVain hnone (inVain_of_exhausted hlink hlost patience)
  | some failure => exact .lost hnone (isLoss_of_exhausted hlost)

/-- **The course of waiting** for the response to the request `id` when so many lines may be read:
what becomes of the client line by line, and what comes of it. -/
inductive Waiting (h : Server π) (id : Nat) :
    Nat → Client π → List (List Char) → Option (Except Failure Json) → Client π → Prop where
  /-- No more lines may be read. -/
  | spent {c : Client π} : Waiting h id 0 c [] none c
  /-- Everything is read. -/
  | exhausted {patience : Nat} {c : Client π} {ended : Bool} (hlink : c.link = some ⟨[], ended⟩) :
      Waiting h id (patience + 1) c [] ((exhausted h c.server ended).map .error) c
  | skip {patience : Nat} {c c' : Client π} {cs : List Char} {rest read : List (List Char)}
      {ended : Bool} {r : Option (Except Failure Json)}
      (hlink : c.link = some ⟨cs :: rest, ended⟩)
      (hnot : ¬ IsResponse id cs) (hanswer : answerTo? cs = none)
      (hrest : Waiting h id patience { c with link := some ⟨rest, ended⟩ } read r c') :
      Waiting h id (patience + 1) c (cs :: read) r c'
  | finish {patience : Nat} {c : Client π} {cs : List Char} {rest : List (List Char)} {ended : Bool}
      {ending : Except Failure Json} (hlink : c.link = some ⟨cs :: rest, ended⟩)
      (hsettles : Settles id cs ending) (hanswer : answerTo? cs = none) :
      Waiting h id (patience + 1) c [cs] (some ending) { c with link := some ⟨rest, ended⟩ }
  | answer {patience : Nat} {c u c' : Client π} {cs : List Char} {rest read : List (List Char)}
      {ended : Bool} {message : Json} {r : Option (Except Failure Json)}
      (hlink : c.link = some ⟨cs :: rest, ended⟩) (hnot : ¬ IsResponse id cs)
      (hanswer : answerTo? cs = some message)
      (hsend : send h { c with link := some ⟨rest, ended⟩ } message = (u, .ok ()))
      (hrest : Waiting h id patience u read r c') : Waiting h id (patience + 1) c (cs :: read) r c'
  /-- A request of the server cannot be answered. -/
  | refused {patience : Nat} {c c' : Client π} {cs : List Char} {rest : List (List Char)}
      {ended : Bool} {message : Json} {failure : Failure}
      (hlink : c.link = some ⟨cs :: rest, ended⟩)
      (hnot : ¬ IsResponse id cs) (hanswer : answerTo? cs = some message)
      (hsend : send h { c with link := some ⟨rest, ended⟩ } message = (c', .error failure)) :
      Waiting h id (patience + 1) c [cs] (some (.error failure)) c'

/-- **Waiting for a response takes such a course.** -/
theorem awaitResponse_waiting {id patience : Nat} {r : Option (Except Failure Json)}
    (hlink : c.link.isSome) (hawait : awaitResponse h (.nat id) patience c = (c', r)) :
    ∃ read, Waiting h id patience c read r c' := by
  induction patience generalizing c with
  | zero =>
      cases hawait
      exact ⟨[], .spent⟩
  | succ patience ih =>
      obtain ⟨⟨inbox, ended⟩, hl⟩ := Option.isSome_iff_exists.1 hlink
      cases inbox with
      | nil =>
          simp only [awaitResponse, hl] at hawait
          cases hawait
          exact ⟨[], .exhausted hl⟩
      | cons cs rest =>
          simp only [awaitResponse, hl] at hawait
          have hregarded := stepOf_regarded id cs
          split at hawait
          case h_1 hstep =>
            rw [hstep] at hregarded
            obtain ⟨hnot, hanswer⟩ := hregarded
            obtain ⟨read, hwaiting⟩ := ih rfl hawait
            exact ⟨cs :: read, .skip hl hnot hanswer hwaiting⟩
          case h_2 ending hstep =>
            rw [hstep] at hregarded
            cases hawait
            cases hregarded with
            | finish hsettles hanswer => exact ⟨[cs], .finish hl hsettles hanswer⟩
          case h_3 i method hstep =>
            rw [hstep] at hregarded
            cases hregarded with
            | answer hnot hanswer =>
                split at hawait
                case h_1 u hsend =>
                  obtain ⟨hsent, -⟩ := send_traffic rfl hsend
                  obtain ⟨read, hwaiting⟩ := ih hsent.isSome hawait
                  exact ⟨cs :: read, .answer hl hnot hanswer hsend hwaiting⟩
                case h_2 u failure hsend =>
                  cases hawait
                  exact ⟨[cs], .refused hl hnot hanswer hsend⟩

/-- **Waiting for a response**: each line that is read is regarded by itself, and the requests
among them are answered. -/
theorem Waiting.traffic {id patience : Nat} {read : List (List Char)}
    {r : Option (Except Failure Json)} (hwaiting : Waiting h id patience c read r c')
    (hlink : c.link.isSome) :
    Traffic h c (read.filterMap answerTo?) read c' ∧ c'.nextId = c.nextId ∧
      Awaited h id patience c' read r := by
  induction hwaiting with
  | spent => exact ⟨.refl hlink, rfl, .inVain (by simp) (.spent rfl)⟩
  | exhausted hl => exact ⟨.refl hlink, rfl, awaited_exhausted id _ hl⟩
  | skip hl hnot hanswer _ ih =>
      obtain ⟨htraffic, hid, hawaited⟩ := ih rfl
      refine ⟨?_, hid, hawaited.cons hnot⟩
      simpa [hanswer] using (traffic_read hl).trans htraffic
  | finish hl hsettles hanswer =>
      refine ⟨by simpa [hanswer] using traffic_read hl, rfl, ?_⟩
      exact .answered (List.forall_mem_nil _) hsettles
  | answer hl hnot hanswer hsend _ ih =>
      obtain ⟨hsent, hid, -⟩ := send_traffic rfl hsend
      obtain ⟨htraffic, hid', hawaited⟩ := ih hsent.isSome
      refine ⟨?_, hid'.trans hid, hawaited.cons hnot⟩
      simpa [hanswer] using ((traffic_read hl).trans hsent).trans htraffic
  | refused hl hnot hanswer hsend =>
      obtain ⟨hsent, hid, hloss⟩ := send_traffic rfl hsend
      refine ⟨by simpa [hanswer] using (traffic_read hl).trans hsent, hid, ?_⟩
      exact .lost (by simpa using hnot) (hloss _ rfl)

end Client

/-! ### Requests and notifications -/

/-- **A request** with its limit, the lines that were read for it and how it ended. -/
structure Exchange where
  id : Nat
  method : String
  params : Json
  limit : Nat
  read : List (List Char)
  ending : Except Failure Json
deriving Repr

namespace Exchange

/-- What was sent for the request: itself, and the answers to the requests of the server. -/
def messages (x : Exchange) : List Json :=
  request x.id x.method x.params :: x.read.filterMap answerTo?

/-- The request came back with a result, or with an error that the server reports. -/
inductive IsAnswered (x : Exchange) : Prop where
  | result (v : Json) (h : x.ending = .ok v)
  | error (code : Int) (reason : String) (h : x.ending = .error (.remote code reason))

/-- The failure of a request for which no response came within its limit. -/
def expiry (x : Exchange) : Failure :=
  .timeout (x.method ++ " after " ++ Time.spanText x.limit)

end Exchange

/-- What a client says by itself: a request, whose response it waits for, or a notification. -/
inductive Turn where
  | asked (x : Exchange)
  | notified (method : String)

namespace Turn

/-- The messages that were sent. -/
def messages : Turn → List Json
  | asked x => x.messages
  | notified method => [notification method]

/-- The lines that were read. -/
def read : Turn → List (List Char)
  | asked x => x.read
  | notified _ => []

/-- The id of a request. -/
def id? : Turn → Option Nat
  | asked x => some x.id
  | notified _ => none

end Turn

section

variable {π : Type} {h : Server π} {at_ : π × Link} {before : List Turn} {x : Exchange}

/-- **The server is silent** after these turns: when their messages are delivered with nobody
reading, all that it has written are the lines that were read in them, and nothing comes after
them. -/
def SilentAfter (h : Server π) (at_ : π × Link) (turns : List Turn) : Prop :=
  ∃ server, Client.deliver h at_ (turns.flatMap Turn.messages) =
    (server, ⟨turns.flatMap Turn.read, false⟩) ∧ h.output server = .silent

namespace Exchange

/-- **Why a request has no response** that came after these turns: the server was silent when
everything was read, as many lines were read as the limit allows, or the channel was lost. -/
inductive Unanswered (h : Server π) (at_ : π × Link) (before : List Turn) (x : Exchange) :
    Prop where
  | silent (hending : x.ending = .error x.expiry)
      (hsilent : SilentAfter h at_ (before ++ [.asked x]))
  | spent (hending : x.ending = .error x.expiry)
      (hlength : x.read.length = Client.patienceOf x.limit)
  | lost (failure : Failure) (hending : x.ending = .error failure)
      (hloss : failure.isLoss = true)

/-- **How a request was decided** that came after these turns: by the first response among the
lines, which is the last line that was read for it; or there was none. -/
inductive Decided (h : Server π) (at_ : π × Link) (before : List Turn) (x : Exchange) : Prop where
  | answered (skipped : List (List Char)) (line : List Char) (hread : x.read = skipped ++ [line])
      (hfirst : ∀ cs ∈ skipped, ¬ IsResponse x.id cs) (hsettles : Settles x.id line x.ending)
  | unanswered (hnone : ∀ cs ∈ x.read, ¬ IsResponse x.id cs) (hwhy : x.Unanswered h at_ before)

/-- An unanswered request fails. -/
theorem Unanswered.exists_error (hx : x.Unanswered h at_ before) :
    ∃ failure, x.ending = .error failure := by
  cases hx with
  | silent hending => exact ⟨_, hending⟩
  | spent hending => exact ⟨_, hending⟩
  | lost failure hending => exact ⟨failure, hending⟩

/-- A request with a result was decided by a response. -/
theorem Decided.exists_line (hx : x.Decided h at_ before) {v : Json} (hending : x.ending = .ok v) :
    ∃ skipped line, x.read = skipped ++ [line] ∧ Settles x.id line (.ok v) := by
  cases hx with
  | answered skipped line hread hfirst hsettles => exact ⟨skipped, line, hread, hending ▸ hsettles⟩
  | unanswered hnone hwhy =>
      obtain ⟨failure, hfailure⟩ := hwhy.exists_error
      cases hending.symm.trans hfailure

end Exchange

/-- What was said and read earlier is left aside. -/
theorem SilentAfter.append {server : π} {l : Link} {earlier turns : List Turn}
    (hsilent : SilentAfter h (server, l) turns)
    (hdeliver : Client.deliver h at_ (earlier.flatMap Turn.messages) =
      (server, l.behind (earlier.flatMap Turn.read))) : SilentAfter h at_ (earlier ++ turns) := by
  obtain ⟨server', hend, houtput⟩ := hsilent
  refine ⟨server', ?_, houtput⟩
  rw [List.flatMap_append, List.flatMap_append, Client.deliver_append, hdeliver,
    Client.deliver_behind, hend]
  rfl

/-- What was said and read earlier comes before. -/
theorem Exchange.Decided.after {server : π} {l : Link} {earlier : List Turn}
    (hx : x.Decided h (server, l) before)
    (hdeliver : Client.deliver h at_ (earlier.flatMap Turn.messages) =
      (server, l.behind (earlier.flatMap Turn.read))) : x.Decided h at_ (earlier ++ before) := by
  cases hx with
  | answered skipped line hread hfirst hsettles =>
      exact .answered skipped line hread hfirst hsettles
  | unanswered hnone hwhy =>
      refine .unanswered hnone ?_
      cases hwhy with
      | silent hending hsilent =>
          refine .silent hending ?_
          rw [List.append_assoc]
          exact hsilent.append hdeliver
      | spent hending hlength => exact .spent hending hlength
      | lost failure hending hloss => exact .lost failure hending hloss

end

namespace Client

variable {π : Type} {h : Server π} {c c' c'' : Client π}

/-- **What a client has said and read** from one of its states to another, in turns. -/
structure Talk (h : Server π) (c : Client π) (turns : List Turn) (c' : Client π) : Prop extends
    Traffic h c (turns.flatMap Turn.messages) (turns.flatMap Turn.read) c' where
  /-- Requests are numbered in order. -/
  ids : turns.filterMap Turn.id? = List.range' c.nextId (turns.filterMap Turn.id?).length
  nextId : c'.nextId = c.nextId + (turns.filterMap Turn.id?).length
  decided : ∀ l, c.link = some l → ∀ before x after, turns = before ++ .asked x :: after →
    x.Decided h (c.server, l) before

/-- A turn of one list of turns after another is in the first or in the second. -/
theorem split_turn {turns turns' before after : List Turn} {t : Turn}
    (hturns : turns ++ turns' = before ++ t :: after) :
    (∃ rest, turns = before ++ t :: rest ∧ after = rest ++ turns') ∨
      ∃ earlier, before = turns ++ earlier ∧ turns' = earlier ++ t :: after := by
  obtain ⟨earlier, hbefore, hlater⟩ | ⟨rest, hfirst, hrest⟩ := List.append_eq_append_iff.1 hturns
  · exact .inr ⟨earlier, hbefore, hlater⟩
  · cases rest with
    | nil => exact .inr ⟨[], by simpa using hfirst.symm, by simpa using hrest.symm⟩
    | cons u rest =>
        obtain ⟨rfl, rfl⟩ := List.cons.inj hrest
        exact .inl ⟨rest, hfirst, rfl⟩

/-- One talk goes on with another. -/
theorem Talk.trans {turns turns' : List Turn} (first : Talk h c turns c')
    (second : Talk h c' turns' c'') : Talk h c (turns ++ turns') c'' := by
  refine ⟨?_, ?_, ?_, ?_⟩
  · simpa using first.toTraffic.trans second.toTraffic
  · rw [List.filterMap_append, List.length_append, List.range'_append_1.symm, ← first.ids,
      ← first.nextId, ← second.ids]
  · rw [second.nextId, first.nextId, List.filterMap_append, List.length_append, Nat.add_assoc]
  · intro l hl before x after hturns
    obtain ⟨u, l', hu, hl', hdeliver⟩ := first.link
    obtain rfl : l = u := Option.some.inj (hl.symm.trans hu)
    obtain ⟨rest, hrest, -⟩ | ⟨earlier, rfl, hlater⟩ := split_turn hturns
    · exact first.decided l hl before x rest hrest
    · exact (second.decided l' hl' earlier x after hlater).after hdeliver

/-- A notification. -/
theorem send_talk (hlink : c.link.isSome) {method : String} {r : Except Failure Unit}
    (hsend : send h c (notification method) = (c', r)) : Talk h c [.notified method] c' := by
  obtain ⟨htraffic, hid, -⟩ := send_traffic hlink hsend
  refine ⟨htraffic, rfl, hid, fun l hl before x after hturns => ?_⟩
  cases before <;> simp at hturns

/-- What a request comes to if this comes of waiting for its response: nothing within the limit is a
timeout. -/
def conclusion (method : String) (limit : Nat) :
    Option (Except Failure Json) → Timed (Except Failure Json)
  | some r => .after 0 r
  | none => .after limit (.error (.timeout (method ++ " after " ++ Time.spanText limit)))

/-- **The course of a request**: it cannot be sent, or its response is waited for. -/
theorem ask_waiting (hlink : c.link.isSome) {method : String} {params : Json} {limit : Nat}
    {t : Timed (Except Failure Json)} (hask : ask h c method params limit = (c', t)) :
    (∃ failure, send h { c with nextId := c.nextId + 1 } (request c.nextId method params) =
        (c', .error failure) ∧ t = .after 0 (.error failure)) ∨
      ∃ u read r, send h { c with nextId := c.nextId + 1 } (request c.nextId method params) =
        (u, .ok ()) ∧ Waiting h c.nextId (patienceOf limit) u read r c' ∧
        t = conclusion method limit r := by
  simp only [ask] at hask
  split at hask
  case h_1 u failure hsend =>
    cases hask
    exact .inl ⟨failure, hsend, rfl⟩
  case h_2 u hsend =>
    obtain ⟨hsent, -⟩ := send_traffic (by exact hlink) hsend
    split at hask
    case h_1 v ending hawait =>
      cases hask
      obtain ⟨read, hwaiting⟩ := awaitResponse_waiting hsent.isSome hawait
      exact .inr ⟨u, read, some ending, hsend, hwaiting, rfl⟩
    case h_2 v hawait =>
      cases hask
      obtain ⟨read, hwaiting⟩ := awaitResponse_waiting hsent.isSome hawait
      exact .inr ⟨u, read, none, hsend, hwaiting, rfl⟩

/-- A request over a channel is a talk of one turn. -/
theorem talk_asked {x : Exchange} (hid : x.id = c.nextId)
    (ht : Traffic h { c with nextId := c.nextId + 1 } x.messages x.read c')
    (hnext : c'.nextId = c.nextId + 1)
    (hdecided : ∀ l, c.link = some l → x.Decided h (c.server, l) []) :
    Talk h c [.asked x] c' := by
  refine ⟨?_, ?_, hnext, fun l hl before y after hturns => ?_⟩
  · simpa [Turn.messages, Turn.read] using ht.renumbered
  · simp [Turn.id?, hid]
  · cases before with
    | nil =>
        obtain ⟨rfl, -⟩ : x = y ∧ after = [] := by simpa using hturns
        exact hdecided l hl
    | cons _ _ => simp at hturns

/-- A client that has waited in vain for the response to a request has not got one. -/
theorem InVain.unanswered {x : Exchange} {l : Link}
    (hvain : InVain h (patienceOf x.limit) c' x.read) (hlink : c.link = some l)
    (ht : Traffic h { c with nextId := c.nextId + 1 } x.messages x.read c')
    (hending : x.ending = .error x.expiry) : x.Unanswered h (c.server, l) [] := by
  cases hvain with
  | spent hlength => exact .spent hending hlength
  | silent hl' hsilent =>
      obtain ⟨u, l', hu, hl'', hdeliver⟩ := ht.link
      obtain rfl : l = u := Option.some.inj (hlink.symm.trans hu)
      obtain rfl : l' = ⟨[], false⟩ := Option.some.inj (hl''.symm.trans hl')
      refine .silent hending ⟨c'.server, ?_, hsilent⟩
      simpa [Turn.messages, Turn.read, Link.behind] using hdeliver

/-- **A request as a whole**: it is sent, and its response is waited for. -/
theorem ask_talk (hlink : c.link.isSome) {method : String} {params : Json} {limit : Nat}
    {t : Timed (Except Failure Json)} (hask : ask h c method params limit = (c', t)) :
    ∃ x delay, x.method = method ∧ x.params = params ∧ x.limit = limit ∧
      t = .after delay x.ending ∧ Talk h c [.asked x] c' := by
  obtain ⟨failure, hsend, rfl⟩ | ⟨u, read, r, hsend, hwaiting, rfl⟩ := ask_waiting hlink hask
  · obtain ⟨hsent, hid, hloss⟩ := send_traffic (by exact hlink) hsend
    refine ⟨⟨c.nextId, method, params, limit, [], .error failure⟩, 0, rfl, rfl, rfl, rfl, ?_⟩
    refine talk_asked rfl hsent hid fun l _ => ?_
    exact .unanswered (List.forall_mem_nil _) (.lost failure rfl (hloss failure rfl))
  · obtain ⟨hsent, hid, -⟩ := send_traffic (by exact hlink) hsend
    obtain ⟨htraffic, hid', hawaited⟩ := hwaiting.traffic hsent.isSome
    have hboth := hsent.trans htraffic
    cases hawaited with
    | @answered skipped line ending hfirst hsettles =>
        refine ⟨⟨c.nextId, method, params, limit, skipped ++ [line], ending⟩, 0, rfl, rfl, rfl, rfl,
          talk_asked rfl hboth (hid'.trans hid) fun l _ => ?_⟩
        exact .answered skipped line rfl hfirst hsettles
    | inVain hnone hvain =>
        refine ⟨⟨c.nextId, method, params, limit, read, .error _⟩, limit, rfl, rfl, rfl, rfl,
          talk_asked rfl hboth (hid'.trans hid) fun l hl => ?_⟩
        exact .unanswered hnone (InVain.unanswered (by exact hvain) hl (by exact hboth) rfl)
    | @lost read failure hnone hloss =>
        refine ⟨⟨c.nextId, method, params, limit, read, .error failure⟩, 0, rfl, rfl, rfl, rfl,
          talk_asked rfl hboth (hid'.trans hid) fun l _ => ?_⟩
        exact .unanswered hnone (.lost failure rfl hloss)

end Client

end Channel

end Scenarist
