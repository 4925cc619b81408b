import Scenarist.Proofs.Channel.Exchange
import Scenarist.Proofs.Json.Canonical
import Scenarist.Proofs.Json.Record

/-!
# Requests of the Server

While a client waits for a response, its server may make requests of its own: lines with an id and
a method (`requested?`), whatever the id, even that of the response that is awaited. Each of them is
answered before the next line is read, with its id, which is any value (`Answers`). Nothing else
that the server writes makes the client say anything, and no line but the response ends its waiting.

Answers are lines that are written, and the server may refuse any of them. So what is said here of
an exchange has two cases: either everything was accepted (`delivery`), and the exchange ended with
its response, in vain or at the end of the output of the server (`Ended`); or the last of the
messages was refused, and that ended the exchange.

## Main results

* `canonical_of_requested?`: the id of a request is in its canonical form, and so it is written as
  it was read.
* `Waiting.served`: how waiting for a response ends, along its course.
* `ask_serves`: **the requests of the server are answered in order**.
-/

namespace Scenarist.Channel

/-! ### Requests and their answers -/

/-- The id and the method of the request of the server on a line, if it holds one. -/
def requested? (cs : List Char) : Option (Json × String) := do
  let m ← Message.ofLine? cs
  let i ← m.id
  let method ← m.method
  return (i, method)

/-- **An answer**: the id of the request, and an empty result if it was a ping. There are no other
methods. -/
inductive Answers : Json × String → Json → Prop where
  | pong (i : Json) : Answers (i, "ping")
      (.object [("id", i), ("jsonrpc", .string "2.0"), ("result", .object [])])
  | declined (i : Json) {method : String} (hmethod : method ≠ "ping") : Answers (i, method)
      (.object [
        ("error", .object [
          ("code", .number (.negative 32601)),
          ("message", .string ("Method not found: " ++ method))]),
        ("id", i),
        ("jsonrpc", .string "2.0")])

/-- What is answered to a request is an answer to it, if its id is in its canonical form. -/
theorem answers_answer {i : Json} (hi : i.canonical = i) (method : String) :
    Answers (i, method) (answer i method) := by
  rw [answer]
  split
  · next hping =>
    subst hping
    have hshape : envelope [("id", i), ("result", .object [])] = .object
        [("id", i.canonical), ("jsonrpc", .string "2.0"), ("result", .object [])] := rfl
    rw [hshape, hi]
    exact .pong i
  · next hmethod =>
    have hshape : envelope [("id", i), ("error", .object [
        ("code", .number (.negative 32601)),
        ("message", .string ("Method not found: " ++ method))])] = .object [
          ("error", .object [
            ("code", .number (.negative 32601)),
            ("message", .string ("Method not found: " ++ method))]),
          ("id", i.canonical),
          ("jsonrpc", .string "2.0")] := rfl
    rw [hshape, hi]
    exact .declined i hmethod

/-- The requests of the server are answered, and nothing else is. -/
theorem answerTo?_eq_map (cs : List Char) :
    answerTo? cs = (requested? cs).map fun r => answer r.1 r.2 := by
  cases hm : Message.ofLine? cs with
  | none => simp [answerTo?, requested?, hm]
  | some m =>
      obtain ⟨i, method, result, error⟩ := m
      cases i <;> cases method <;> simp [answerTo?, requested?, hm]

namespace Message

/-- **The id of a message is in its canonical form**, for it is read. -/
theorem canonical_of_ofLine? {cs : List Char} {m : Message} {i : Json} (hm : ofLine? cs = some m)
    (hid : m.id = some i) : i.canonical = i := by
  have hread : Json.readText (shape.read .text) (String.ofList (Text.trim cs)) = .ok m := by
    rw [ofLine?] at hm
    split at hm
    · next hread => rw [hread, Option.some.inj hm]
    · cases hm
  refine Json.RecordShape.read_keeps (P := fun m => ∀ i, m.id = some i → i.canonical = i)
    (by simp [shape]) ?_ (Json.readText_eq_ok_iff.1 hread).1 i hid
  intro f hf d m m' hbefore hread
  simp only [shape, List.mem_cons, List.not_mem_nil, or_false] at hf
  obtain rfl | rfl | rfl | rfl := hf <;> obtain ⟨v, hv, rfl⟩ := Json.map_eq_ok_iff.1 hread
  · intro i hi
    exact Json.canonical_of_asOption (hv.trans (congrArg Except.ok hi))
  all_goals exact hbefore

end Message

/-- **The id of a request is in its canonical form**, and so it is written as it was read. -/
theorem canonical_of_requested? {cs : List Char} {i : Json} {method : String}
    (h : requested? cs = some (i, method)) : i.canonical = i := by
  simp only [requested?, Option.bind_eq_bind, Option.bind_eq_some_iff] at h
  obtain ⟨m, hm, i, hi, method, -, h⟩ := h
  cases h
  exact Message.canonical_of_ofLine? hm hi

/-- **What is answered** to lines are the answers to the requests on them, in order. -/
theorem forall₂_answers (read : List (List Char)) :
    List.Forall₂ Answers (read.filterMap requested?) (read.filterMap answerTo?) := by
  induction read with
  | nil => exact .nil
  | cons cs read ih =>
      cases hrequested : requested? cs with
      | none => simpa [hrequested, answerTo?_eq_map cs] using ih
      | some r =>
          have hanswer := answers_answer (canonical_of_requested? hrequested) r.2
          simpa [hrequested, answerTo?_eq_map cs] using ⟨hanswer, ih⟩

namespace Client

variable {π : Type} {h : Server π} {c c' : Client π}

/-! ### Messages that are refused -/

/-- Whether messages are accepted that are written one after another, nothing being read. -/
def delivery (h : Server π) : π × Link → List Json → Except Failure Unit
  | _, [] => .ok ()
  | (server, l), message :: rest =>
    match write h server l (line message) with
    | (server, l, .ok ()) => delivery h (server, l) rest
    | (_, _, .error failure) => .error failure

/-- When a message is accepted, it is up to the others. -/
theorem delivery_cons_of_ok {at_ : π × Link} {server : π} {l : Link} {message : Json}
    (hwrite : write h at_.1 at_.2 (line message) = (server, l, .ok ())) (rest : List Json) :
    delivery h at_ (message :: rest) = delivery h (server, l) rest := by
  rw [delivery, hwrite]

/-- When a message is refused, the others are not written. -/
theorem delivery_cons_of_error {at_ : π × Link} {server : π} {l : Link} {message : Json}
    {failure : Failure}
    (hwrite : write h at_.1 at_.2 (line message) = (server, l, .error failure))
    (rest : List Json) : delivery h at_ (message :: rest) = .error failure := by
  rw [delivery, hwrite]

/-- Lines that are not yet read do not matter to what is accepted. -/
theorem delivery_behind (server : π) (lines : List (List Char)) (l : Link) (messages : List Json) :
    delivery h (server, l.behind lines) messages = delivery h (server, l) messages := by
  induction messages generalizing server l with
  | nil => rfl
  | cons message rest ih =>
      rw [delivery, delivery, write_behind]
      rcases write h server l (line message) with ⟨server, l, _ | _⟩
      · rfl
      · exact ih server l

/-- The last of the messages was refused, and the others were not. -/
structure Refused (h : Server π) (at_ : π × Link) (messages : List Json) (failure : Failure) :
    Prop where
  others : delivery h at_ messages.dropLast = .ok ()
  last : delivery h at_ messages = .error failure

/-- A single message that is refused is the last one. -/
theorem refused_of_write {at_ : π × Link} {server : π} {l : Link} {message : Json}
    {failure : Failure}
    (hwrite : write h at_.1 at_.2 (line message) = (server, l, .error failure)) :
    Refused h at_ [message] failure :=
  ⟨rfl, delivery_cons_of_error hwrite []⟩

/-- A message that is accepted may come first. -/
theorem Refused.cons {at_ : π × Link} {server : π} {l : Link} {message : Json}
    {messages : List Json} {failure : Failure} (hrefused : Refused h (server, l) messages failure)
    (hwrite : write h at_.1 at_.2 (line message) = (server, l, .ok ())) :
    Refused h at_ (message :: messages) failure := by
  have hne : messages ≠ [] := by
    rintro rfl
    cases hrefused.last
  refine ⟨?_, (delivery_cons_of_ok hwrite messages).trans hrefused.last⟩
  rw [List.dropLast_cons_of_ne_nil hne, delivery_cons_of_ok hwrite]
  exact hrefused.others

/-- Lines that are not yet read do not matter to what is refused. -/
theorem Refused.behind {server : π} {l : Link} {messages : List Json} {failure : Failure}
    (hrefused : Refused h (server, l) messages failure) (lines : List (List Char)) :
    Refused h (server, l.behind lines) messages failure :=
  ⟨(delivery_behind server lines l _).trans hrefused.others,
    (delivery_behind server lines l _).trans hrefused.last⟩

/-! ### How waiting ends -/

/-- **How waiting ends** for the response to the request `id` if nothing that is written is refused,
when so many lines may be read: with the response, which is the last line that is read; in vain,
when everything is read and the server stays silent, or when as many lines are read as may be; or at
the end of the output of the server, when everything is read. -/
inductive Ended (h : Server π) (id patience : Nat) (c' : Client π) :
    List (List Char) → Option (Except Failure Json) → Prop where
  | answered {skipped : List (List Char)} {line : List Char} {ending : Except Failure Json}
      (hfirst : ∀ cs ∈ skipped, ¬ IsResponse id cs) (hsettles : Settles id line ending) :
      Ended h id patience c' (skipped ++ [line]) (some ending)
  | inVain {read : List (List Char)} (hnone : ∀ cs ∈ read, ¬ IsResponse id cs)
      (hvain : InVain h patience c' read) : Ended h id patience c' read none
  | exhausted {read : List (List Char)} {ended : Bool} {failure : Failure}
      (hnone : ∀ cs ∈ read, ¬ IsResponse id cs) (hlink : c'.link = some ⟨[], ended⟩)
      (hlost : exhausted h c'.server ended = some failure) :
      Ended h id patience c' read (some (.error failure))

/-- A line is read first that is no response. -/
theorem Ended.cons {id patience : Nat} {cs : List Char} {read : List (List Char)}
    {r : Option (Except Failure Json)} (hnot : ¬ IsResponse id cs)
    (hended : Ended h id patience c' read r) : Ended h id (patience + 1) c' (cs :: read) r := by
  cases hended with
  | answered hfirst hsettles =>
      exact .answered (List.forall_mem_cons.2 ⟨hnot, hfirst⟩) hsettles
  | inVain hnone hvain => exact .inVain (List.forall_mem_cons.2 ⟨hnot, hnone⟩) (hvain.cons cs)
  | exhausted hnone hlink hlost =>
      exact .exhausted (List.forall_mem_cons.2 ⟨hnot, hnone⟩) hlink hlost

/-- When everything is read, waiting ends in vain or at the end of the output of the server. -/
theorem ended_exhausted (id patience : Nat) {ended : Bool} (hlink : c.link = some ⟨[], ended⟩) :
    Ended h id patience c [] ((Client.exhausted h c.server ended).map .error) := by
  have hnone : ∀ cs ∈ ([] : List (List Char)), ¬ IsResponse id cs := by simp
  cases hlost : Client.exhausted h c.server ended with
  | none => exact .inVain hnone (inVain_of_exhausted hlink hlost patience)
  | some failure => exact .exhausted hnone hlink hlost

/-- **What becomes of messages** that a client writes while it waits: all of them are accepted, and
the waiting ends by itself; or the last of them is refused, and that ends the waiting. -/
inductive Served (h : Server π) (id patience : Nat) (at_ : π × Link) (c' : Client π)
    (messages : List Json) (read : List (List Char)) : Option (Except Failure Json) → Prop where
  | accepted {r : Option (Except Failure Json)} (hdelivery : delivery h at_ messages = .ok ())
      (hended : Ended h id patience c' read r) : Served h id patience at_ c' messages read r
  | refused {failure : Failure} (hrefused : Refused h at_ messages failure)
      (hnone : ∀ cs ∈ read, ¬ IsResponse id cs) :
      Served h id patience at_ c' messages read (some (.error failure))

variable {id patience : Nat} {server : π} {l : Link} {messages : List Json}
variable {read : List (List Char)} {r : Option (Except Failure Json)}

/-- A line is read that is no response. -/
theorem Served.skip {cs : List Char} (hserved : Served h id patience (server, l) c' messages read r)
    (hnot : ¬ IsResponse id cs) :
    Served h id (patience + 1) (server, l.behind [cs]) c' messages (cs :: read) r := by
  cases hserved with
  | accepted hdelivery hended =>
      exact .accepted ((delivery_behind server [cs] l messages).trans hdelivery) (hended.cons hnot)
  | refused hrefused hnone =>
      exact .refused (hrefused.behind [cs]) (List.forall_mem_cons.2 ⟨hnot, hnone⟩)

/-- A message is written first. -/
theorem Served.cons {at_ : π × Link} {message : Json}
    (hserved : Served h id patience (server, l) c' messages read r)
    (hwrite : write h at_.1 at_.2 (line message) = (server, l, .ok ())) :
    Served h id patience at_ c' (message :: messages) read r := by
  cases hserved with
  | accepted hdelivery hended =>
      exact .accepted ((delivery_cons_of_ok hwrite messages).trans hdelivery) hended
  | refused hrefused hnone => exact .refused (hrefused.cons hwrite) hnone

/-- Inversion of sending over a channel. -/
theorem write_of_send {message : Json} {o : Except Failure Unit} (hlink : c.link = some l)
    (hsend : send h c message = (c', o)) :
    ∃ l', c'.link = some l' ∧ write h c.server l (line message) = (c'.server, l', o) := by
  simp only [send, hlink] at hsend
  cases hsend
  exact ⟨_, rfl, rfl⟩

/-- **How waiting for a response ends**, along its course. -/
theorem Waiting.served (hwaiting : Waiting h id patience c read r c') (hlink : c.link = some l) :
    Served h id patience (c.server, l) c' (read.filterMap answerTo?) read r := by
  induction hwaiting generalizing l with
  | spent => exact .accepted rfl (.inVain (by simp) (.spent rfl))
  | exhausted hl => exact .accepted rfl (ended_exhausted id _ hl)
  | skip hl hnot hanswer _ ih =>
      obtain rfl := Option.some.inj (hlink.symm.trans hl)
      rw [List.filterMap_cons_none hanswer]
      exact (ih rfl).skip hnot
  | finish hl hsettles hanswer =>
      refine .accepted (by simp [hanswer, delivery]) ?_
      exact .answered (List.forall_mem_nil _) hsettles
  | answer hl hnot hanswer hsend _ ih =>
      obtain rfl := Option.some.inj (hlink.symm.trans hl)
      obtain ⟨l', hl', hwrite⟩ := write_of_send rfl hsend
      rw [List.filterMap_cons_some hanswer]
      exact ((ih hl').cons hwrite).skip hnot
  | refused hl hnot hanswer hsend =>
      obtain rfl := Option.some.inj (hlink.symm.trans hl)
      obtain ⟨l', -, hwrite⟩ := write_of_send rfl hsend
      rw [List.filterMap_cons_some hanswer]
      exact .refused ((refused_of_write hwrite).behind [_]) (by simpa using hnot)

/-- **The requests of the server are answered in order**, each once and with its id: whatever is
asked for, the client writes its own request and then these answers, and nothing else. How the
exchange ends is told by `Served`. -/
theorem ask_serves (h : Server π) (c : Client π) (l : Link) (method : String) (params : Json)
    (limit : Nat) : ∃ read answers r c',
      ask h { c with link := some l } method params limit = (c', conclusion method limit r) ∧
      Traffic h { c with link := some l } (request c.nextId method params :: answers) read c' ∧
      List.Forall₂ Answers (read.filterMap requested?) answers ∧
      Served h c.nextId (patienceOf limit) (c.server, l) c'
        (request c.nextId method params :: answers) read r := by
  rcases hask : ask h { c with link := some l } method params limit with ⟨c', t⟩
  obtain ⟨failure, hsend, rfl⟩ | ⟨u, read, r, hsend, hwaiting, rfl⟩ := ask_waiting rfl hask
  · obtain ⟨hsent, -⟩ := send_traffic rfl hsend
    obtain ⟨l', -, hwrite⟩ := write_of_send rfl hsend
    exact ⟨[], [], some (.error failure), c', rfl, hsent.renumbered, .nil,
      .refused (refused_of_write hwrite) (by simp)⟩
  · obtain ⟨hsent, -⟩ := send_traffic rfl hsend
    obtain ⟨l', hl', hwrite⟩ := write_of_send rfl hsend
    obtain ⟨htraffic, -⟩ := hwaiting.traffic hsent.isSome
    exact ⟨read, read.filterMap answerTo?, r, c', rfl, (hsent.trans htraffic).renumbered,
      forall₂_answers read, (hwaiting.served hl').cons hwrite⟩

/-- A server that, told anything, writes a banner and makes two requests of its own, one of them
with the id of the request that it then responds to. -/
def inquisitive : Server Unit where
  start _ _ _ := .ok ()
  take _ _ :=
    ((), ["starting".toList, [], line (envelope [("id", .nat 1), ("method", .string "ping")]),
      line (envelope [("id", .array [.null]), ("method", .string "roots/list")]),
      line (envelope [("id", .nat 1), ("result", .bool true)])], false)
  lingers _ := false

example : ((ask inquisitive { (start ()) with link := some .fresh } "tools/list" .null 1).1.sent ==
    [request 1 "tools/list" .null, answer (.nat 1) "ping", answer (.array [.null]) "roots/list"]) =
      true := by
  decide +kernel

end Client

end Scenarist.Channel
