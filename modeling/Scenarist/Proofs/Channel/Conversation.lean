import Scenarist.Proofs.Channel.Exchange

/-!
# The Conversations of a Client

A client is asked to connect, to call tools and to close, in any order. Each operation that comes
to its end has done one of a few things (`Effect`): it had no channel and did not get one, it
started a server and introduced itself, it asked for the call of a tool, or it let the server go.
A record of what was done is a list of deeds, each with the turns that it took; the deeds since the
start of a server make up the conversation with it.

Two invariants carry everything that is said about a client. A client that is not in the middle of
an operation has a channel exactly if it is initialized; and its messages, its numbers and its
channel are those of the record, where each request was decided by what came before it (`Ledger`).

## Main results

* `perform_effect`: inversion of an operation.
* `linked_of_effect`, `ledger_of_effect`: the invariants, for one operation.
* `performAll_course`, `ledger_of_course`: **any number of operations have a record**.
-/

namespace Scenarist

/-- The same time with another result. -/
def Timed.map {α β : Type} (f : α → β) : Timed α → Timed β
  | .never => .never
  | .after delay a => .after delay (f a)

namespace Channel

/-- The notification that ends an introduction. -/
def introducedNotice : String := "notifications/initialized"

/-- A client introduces itself by this request. -/
structure Exchange.IsIntroduction (x : Exchange) : Prop where
  method_eq : x.method = "initialize"
  params_eq : x.params = introduction

/-- A client calls a tool by this request. -/
structure Exchange.IsCall (tool : String) (arguments : Json) (x : Exchange) : Prop where
  method_eq : x.method = "tools/call"
  params_eq : x.params = callParams tool arguments

namespace Client

/-! ### Operations -/

/-- What a client can be asked to do. -/
inductive Operation where
  | connect
  | call (tool : String) (arguments : Json)
  | close
deriving Repr

/-- What an operation gives back. -/
inductive Returned where
  | connected (result : Except Failure Unit)
  | called (result : Except Failure ToolReply)
  | closed
deriving Repr

variable {π : Type}

section

variable (h : Server π) (s : AutomationSettings)

/-- One operation. -/
def perform (c : Client π) : Operation → Client π × Timed Returned
  | .connect =>
    let (c, t) := connect h s c
    (c, t.map .connected)
  | .call tool arguments =>
    let (c, t) := call h s c tool arguments
    (c, t.map .called)
  | .close =>
    let (c, t) := close h c
    (c, t.map fun _ => .closed)

/-- Operations in order, each after the end of the one before. -/
def performAll : List Operation → Client π → Client π × List (Timed Returned)
  | [], c => (c, [])
  | op :: rest, c =>
    let (c, t) := perform h s c op
    let (c, ts) := performAll rest c
    (c, t :: ts)

end

/-! ### What an operation does -/

/-- What was done in one operation: the server that was started, if any, and the turns taken. -/
structure Deed (π : Type) where
  operation : Operation
  returned : Timed Returned
  started : Option π
  turns : List Turn

/-- A client with a server that has just been started. -/
def reached (c : Client π) (server : π) : Client π :=
  { c with server := server, link := some .fresh }

/-- A client that has let its server go. -/
def parted (c : Client π) : Client π := { c with initialized := false, link := none }

variable {h : Server π} {s : AutomationSettings} {c c' c'' : Client π}

/-- **What an operation has done** that came to its end. Connecting without a channel turns to the
place of the servers first, which may have changed meanwhile. -/
inductive Effect (h : Server π) (s : AutomationSettings) (c : Client π) :
    Deed π → Client π → Prop where
  | connectedAlready (hc : c.initialized = true) :
      Effect h s c ⟨.connect, .after 0 (.connected (.ok ())), none, []⟩ c
  | notStarted (hc : c.initialized = false) (reason : String)
      (hstart : h.start (h.meanwhile c.server).1 s.command s.args = .error reason) :
      Effect h s c
        ⟨.connect, .after 0 (.connected (.error (.connection
          ("failed to start " ++ s.command ++ ": " ++ reason)))), none, []⟩
        { c with server := (h.meanwhile c.server).1 }
  | introduced (hc : c.initialized = false) (server : π)
      (hstart : h.start (h.meanwhile c.server).1 s.command s.args = .ok server) (x : Exchange)
      (hx : x.IsIntroduction) (hlimit : x.limit = s.connectTimeoutMs) (v : Json)
      (hending : x.ending = .ok v) (c' : Client π)
      (htalk : Talk h (c.reached server) [.asked x, .notified introducedNotice] c')
      (delay : Nat) :
      Effect h s c
        ⟨.connect, .after delay (.connected (.ok ())), some server,
          [.asked x, .notified introducedNotice]⟩
        { c' with initialized := true }
  /-- The introduction was not answered by a result. -/
  | refused (hc : c.initialized = false) (server : π)
      (hstart : h.start (h.meanwhile c.server).1 s.command s.args = .ok server) (x : Exchange)
      (hx : x.IsIntroduction) (hlimit : x.limit = s.connectTimeoutMs) (failure : Failure)
      (hending : x.ending = .error failure) (c' : Client π)
      (htalk : Talk h (c.reached server) [.asked x] c') (delay : Nat) :
      Effect h s c
        ⟨.connect, .after delay (.connected (.error (connectFailure failure))), some server,
          [.asked x]⟩
        c'.parted
  /-- The introduction was answered, but the server was lost before it was told so. -/
  | lost (hc : c.initialized = false) (server : π)
      (hstart : h.start (h.meanwhile c.server).1 s.command s.args = .ok server) (x : Exchange)
      (hx : x.IsIntroduction) (hlimit : x.limit = s.connectTimeoutMs) (v : Json)
      (hending : x.ending = .ok v) (failure : Failure) (c' : Client π)
      (htalk : Talk h (c.reached server) [.asked x, .notified introducedNotice] c')
      (delay : Nat) :
      Effect h s c
        ⟨.connect, .after delay (.connected (.error (connectFailure failure))), some server,
          [.asked x, .notified introducedNotice]⟩
        c'.parted
  | notCalled (hc : c.initialized = false) (tool : String) (arguments : Json) :
      Effect h s c ⟨.call tool arguments, .after 0 (.called (.error notConnected)), none, []⟩ c
  | called (hc : c.initialized = true) (tool : String) (arguments : Json) (x : Exchange)
      (hx : x.IsCall tool arguments) (hlimit : x.limit = s.callTimeoutMs) (c' : Client π)
      (htalk : Talk h c [.asked x] c') (delay : Nat) :
      Effect h s c
        ⟨.call tool arguments, .after delay (.called (x.ending.bind ToolResult.replyOf)), none,
          [.asked x]⟩ c'
  | closed (delay : Nat) :
      Effect h s c ⟨.close, .after delay .closed, none, []⟩ c.parted

/-! ### Inversion of operations -/

/-- A client with a new server introduces itself. -/
theorem introduce_effect (hc : c.initialized = false) {server : π}
    (hstart : h.start (h.meanwhile c.server).1 s.command s.args = .ok server)
    {t : Timed (Except Failure Unit)}
    (hintroduce : introduce h (c.reached server) s.connectTimeoutMs = (c', t)) :
    ∃ delay result started turns, t = .after delay result ∧
      Effect h s c ⟨.connect, .after delay (.connected result), started, turns⟩ c' := by
  rcases hask : ask h (c.reached server) "initialize" introduction s.connectTimeoutMs with ⟨u, t'⟩
  obtain ⟨x, delay, hmethod, hparams, hlimit, rfl, htalk⟩ := ask_talk rfl hask
  have hx : x.IsIntroduction := ⟨hmethod, hparams⟩
  simp only [introduce, hask] at hintroduce
  cases hending : x.ending with
  | error failure =>
      rw [hending] at hintroduce
      cases hintroduce
      exact ⟨_, _, _, _, rfl, .refused hc server hstart x hx hlimit failure hending u htalk _⟩
  | ok v =>
      rcases hsend : send h u (notification "notifications/initialized") with ⟨u', r⟩
      have htalk' := htalk.trans (send_talk htalk.isSome hsend)
      simp only [hending, hsend] at hintroduce
      cases r with
      | error failure =>
          cases hintroduce
          exact ⟨_, _, _, _, rfl,
            .lost hc server hstart x hx hlimit v hending failure u' htalk' _⟩
      | ok r =>
          cases hintroduce
          exact ⟨_, _, _, _, rfl,
            .introduced hc server hstart x hx hlimit v hending u' htalk' delay⟩

/-- Connecting comes to an end. -/
theorem connect_effect (hlinked : c.initialized = c.link.isSome)
    {t : Timed (Except Failure Unit)} (hconnect : connect h s c = (c', t)) :
    ∃ delay result started turns, t = .after delay result ∧
      Effect h s c ⟨.connect, .after delay (.connected result), started, turns⟩ c' := by
  cases hc : c.initialized with
  | true =>
      rw [connect, if_pos hc] at hconnect
      cases hconnect
      exact ⟨_, _, _, _, rfl, .connectedAlready hc⟩
  | false =>
      have hnone : c.link.isSome = false := hlinked.symm.trans hc
      rw [connect, if_neg (by simp [hc]), if_neg (by simp [hnone])] at hconnect
      cases hstart : h.start (h.meanwhile c.server).1 s.command s.args with
      | error reason =>
          simp only [hstart] at hconnect
          cases hconnect
          exact ⟨_, _, _, _, rfl, .notStarted hc reason hstart⟩
      | ok server =>
          simp only [hstart] at hconnect
          exact introduce_effect hc hstart hconnect

/-- Calling a tool comes to an end. -/
theorem call_effect (hlinked : c.initialized = c.link.isSome) {tool : String} {arguments : Json}
    {t : Timed (Except Failure ToolReply)} (hcall : call h s c tool arguments = (c', t)) :
    ∃ delay result turns, t = .after delay result ∧
      Effect h s c ⟨.call tool arguments, .after delay (.called result), none, turns⟩ c' := by
  cases hc : c.initialized with
  | false =>
      rw [call, if_pos (by simp [hc])] at hcall
      cases hcall
      exact ⟨_, _, _, rfl, .notCalled hc tool arguments⟩
  | true =>
      have hlink : c.link.isSome = true := hlinked.symm.trans hc
      rcases hask : ask h c "tools/call" (callParams tool arguments) s.callTimeoutMs with ⟨u, t'⟩
      obtain ⟨x, delay, hmethod, hparams, hlimit, rfl, htalk⟩ := ask_talk hlink hask
      rw [call, if_neg (by simp [hc]), hask] at hcall
      cases hcall
      exact ⟨_, _, _, rfl, .called hc tool arguments x ⟨hmethod, hparams⟩ hlimit _ htalk delay⟩

/-- **Inversion of an operation.** -/
theorem perform_effect (hlinked : c.initialized = c.link.isSome) {op : Operation}
    {t : Timed Returned} (hperform : perform h s c op = (c', t)) :
    ∃ started turns, Effect h s c ⟨op, t, started, turns⟩ c' := by
  cases op with
  | connect =>
      rcases hconnect : connect h s c with ⟨u, t'⟩
      obtain ⟨delay, result, started, turns, rfl, heffect⟩ := connect_effect hlinked hconnect
      simp only [perform, hconnect] at hperform
      cases hperform
      exact ⟨started, turns, heffect⟩
  | call tool arguments =>
      rcases hcall : call h s c tool arguments with ⟨u, t'⟩
      obtain ⟨delay, result, turns, rfl, heffect⟩ := call_effect hlinked hcall
      simp only [perform, hcall] at hperform
      cases hperform
      exact ⟨none, turns, heffect⟩
  | close =>
      cases hperform
      exact ⟨none, [], .closed _⟩

/-! ### The channel of a client -/

/-- **A client has a channel exactly if it is initialized**, before and after each operation. -/
theorem linked_of_effect (hlinked : c.initialized = c.link.isSome) {d : Deed π}
    (heffect : Effect h s c d c') : c'.initialized = c'.link.isSome := by
  cases heffect with
  | connectedAlready => exact hlinked
  | notStarted => exact hlinked
  | introduced hc server hstart x hx hlimit v hending u htalk => exact htalk.isSome.symm
  | refused => rfl
  | lost => rfl
  | notCalled => exact hlinked
  | called hc tool arguments x hx hlimit u htalk => rw [htalk.initialized, hc, htalk.isSome]
  | closed => rfl

/-! ### Records -/

/-- The deeds of a client from one state to another. -/
inductive Course (h : Server π) (s : AutomationSettings) :
    Client π → List (Deed π) → Client π → Prop where
  | nil (u : Client π) : Course h s u [] u
  | cons {u v w : Client π} {d : Deed π} {rest : List (Deed π)} (first : Effect h s u d v)
      (later : Course h s v rest w) : Course h s u (d :: rest) w

/-- Any number of operations make up a course. -/
theorem performAll_course (hlinked : c.initialized = c.link.isSome) {ops : List Operation}
    {ts : List (Timed Returned)} (hperform : performAll h s ops c = (c', ts)) :
    ∃ deeds, deeds.map Deed.operation = ops ∧ deeds.map Deed.returned = ts ∧
      Course h s c deeds c' := by
  induction ops generalizing c ts with
  | nil =>
      cases hperform
      exact ⟨[], rfl, rfl, .nil _⟩
  | cons op rest ih =>
      rcases hop : perform h s c op with ⟨u, t⟩
      rcases hrest : performAll h s rest u with ⟨v, ts'⟩
      simp only [performAll, hop, hrest] at hperform
      cases hperform
      obtain ⟨started, turns, heffect⟩ := perform_effect hlinked hop
      obtain ⟨deeds, hops, hts, hcourse⟩ := ih (linked_of_effect hlinked heffect) hrest
      exact ⟨⟨op, t, started, turns⟩ :: deeds, by simp [hops], by simp [hts],
        .cons heffect hcourse⟩

/-- **A record of the operations** that a client was asked for that began without a server. -/
structure Recorded (h : Server π) (s : AutomationSettings) (p : π) (ops : List Operation)
    (deeds : List (Deed π)) : Prop where
  operations : deeds.map Deed.operation = ops
  returned : deeds.map Deed.returned = (performAll h s ops (.start p)).2
  course : Course h s (.start p) deeds (performAll h s ops (.start p)).1

/-- **All operations can be recorded.** -/
theorem exists_recorded (h : Server π) (s : AutomationSettings) (p : π) (ops : List Operation) :
    ∃ deeds, Recorded h s p ops deeds := by
  obtain ⟨deeds, hops, hreturned, hcourse⟩ := performAll_course (c := .start p) rfl rfl
  exact ⟨deeds, hops, hreturned, hcourse⟩

/-- A property of records that each deed keeps holds of the whole record. -/
theorem Course.induction {I : List (Deed π) → Client π → Prop}
    (hstep : ∀ done u d v, I done u → Effect h s u d v → I (done ++ [d]) v)
    {done deeds : List (Deed π)} (hI : I done c) (hcourse : Course h s c deeds c') :
    I (done ++ deeds) c' := by
  induction hcourse generalizing done with
  | nil => simpa using hI
  | cons first later ih => simpa using ih (hstep _ _ _ _ hI first)

/-- Each deed of a record has had its effect. -/
theorem Course.exists_effect {deeds : List (Deed π)} (hcourse : Course h s c deeds c')
    {d : Deed π} (hd : d ∈ deeds) : ∃ u v, Effect h s u d v := by
  induction hcourse with
  | nil => simp at hd
  | cons first later ih =>
      rcases List.mem_cons.1 hd with rfl | hd
      · exact ⟨_, _, first⟩
      · exact ih hd

/-- The turns of a record. -/
def turnsOf (deeds : List (Deed π)) : List Turn := deeds.flatMap Deed.turns

theorem turnsOf_concat (deeds : List (Deed π)) (d : Deed π) :
    turnsOf (deeds ++ [d]) = turnsOf deeds ++ d.turns := by
  simp [turnsOf]

/-- **A conversation**: a server as it was when it was started, and the turns that the client
took with it. -/
structure Conversation (π : Type) where
  server : π
  turns : List Turn

namespace Conversation

/-- The messages that were sent. -/
def messages (v : Conversation π) : List Json := v.turns.flatMap Turn.messages

/-- The lines that were read. -/
def read (v : Conversation π) : List (List Char) := v.turns.flatMap Turn.read

/-- The lines that the server has written, whether they were read or not. -/
def inbound (h : Server π) (v : Conversation π) : List (List Char) :=
  (deliver h (v.server, .fresh) v.messages).2.inbox

/-- Each request was decided, as it came after the turns before it. -/
def Decided (h : Server π) (v : Conversation π) : Prop :=
  ∀ before x after, v.turns = before ++ .asked x :: after → x.Decided h (v.server, .fresh) before

/-- The conversation has come to this state of the server and to this connection. -/
def Reaches (h : Server π) (v : Conversation π) (server : π) (l : Link) : Prop :=
  deliver h (v.server, .fresh) v.messages = (server, l.behind v.read)

/-- A conversation goes on. -/
def extend (v : Conversation π) (turns : List Turn) : Conversation π :=
  { v with turns := v.turns ++ turns }

variable {v : Conversation π} {server : π} {l : Link}

/-- What was read comes first in what the server has written. -/
theorem Reaches.read_prefix (hv : v.Reaches h server l) : v.read <+: v.inbound h := by
  rw [inbound, hv]
  exact List.prefix_append _ _

theorem Reaches.extend (hv : v.Reaches h c.server l) {turns : List Turn}
    (htalk : Talk h c turns c') (hl : c.link = some l) {l' : Link} (hl' : c'.link = some l') :
    (v.extend turns).Reaches h c'.server l' := by
  obtain ⟨u, u', hu, hu', hdeliver⟩ := htalk.link
  obtain rfl : l = u := Option.some.inj (hl.symm.trans hu)
  obtain rfl : l' = u' := Option.some.inj (hl'.symm.trans hu')
  simp only [Reaches, messages, read, Conversation.extend, List.flatMap_append] at hv ⊢
  rw [deliver_append, hv, deliver_behind, hdeliver]
  simp [Link.behind]

theorem Decided.extend (hv : v.Decided h) (hreaches : v.Reaches h c.server l) {turns : List Turn}
    (htalk : Talk h c turns c') (hl : c.link = some l) : (v.extend turns).Decided h := by
  intro before x after hturns
  obtain ⟨rest, hrest, -⟩ | ⟨earlier, rfl, hlater⟩ := split_turn hturns
  · exact hv before x rest hrest
  · exact (htalk.decided l hl earlier x after hlater).after hreaches

end Conversation

/-- Adds a deed to the conversations, the latest of which comes first. -/
def record (talks : List (Conversation π)) (d : Deed π) : List (Conversation π) :=
  match d.started, talks with
  | some server, talks => ⟨server, d.turns⟩ :: talks
  | none, latest :: older => latest.extend d.turns :: older
  | none, [] => []

/-- The conversations of a record, the latest of which comes first. -/
def conversations (deeds : List (Deed π)) : List (Conversation π) := deeds.foldl record []

theorem conversations_concat (deeds : List (Deed π)) (d : Deed π) :
    conversations (deeds ++ [d]) = record (conversations deeds) d := by
  simp [conversations]

/-- A server was started. -/
theorem conversations_of_started {deeds : List (Deed π)} {d : Deed π} {server : π}
    (hd : d.started = some server) :
    conversations (deeds ++ [d]) = ⟨server, d.turns⟩ :: conversations deeds := by
  simp [conversations_concat, record, hd]

/-- The latest conversation goes on. -/
theorem conversations_of_not_started {deeds : List (Deed π)} {d : Deed π} (hd : d.started = none)
    {latest : Conversation π} {older : List (Conversation π)}
    (htalks : conversations deeds = latest :: older) :
    conversations (deeds ++ [d]) = latest.extend d.turns :: older := by
  simp [conversations_concat, record, hd, htalks]

/-- A deed without turns leaves the conversations as they were. -/
theorem conversations_of_silent {deeds : List (Deed π)} {d : Deed π} (hd : d.started = none)
    (hturns : d.turns = []) : conversations (deeds ++ [d]) = conversations deeds := by
  obtain ⟨op, t, started, turns⟩ := d
  cases hd
  cases hturns
  rw [conversations_concat]
  cases conversations deeds with
  | nil => rfl
  | cons latest older => simp [record, Conversation.extend]

/-! ### The ledger -/

/-- **The record and the client agree** on what was sent and on the numbers of the requests. -/
structure Tally (done : List (Deed π)) (c : Client π) : Prop where
  sent : c.sent = (turnsOf done).flatMap Turn.messages
  ids : (turnsOf done).filterMap Turn.id? =
    List.range' 1 ((turnsOf done).filterMap Turn.id?).length
  nextId : c.nextId = 1 + ((turnsOf done).filterMap Turn.id?).length

/-- **The record, the client and the servers agree**, also on what was read and what is left to be
read, and on how the requests were decided. -/
structure Ledger (h : Server π) (s : AutomationSettings) (done : List (Deed π)) (c : Client π) :
    Prop extends Tally done c where
  turns : turnsOf done = (conversations done).reverse.flatMap Conversation.turns
  started : ∀ v ∈ conversations done, ∃ place, h.start place s.command s.args = .ok v.server
  /-- What was read is what comes first in what the server has written. -/
  read : ∀ v ∈ conversations done, v.read <+: v.inbound h
  decided : ∀ v ∈ conversations done, v.Decided h
  /-- The channel is that of the latest conversation. -/
  channel : ∀ l, c.link = some l → ∃ latest older, conversations done = latest :: older ∧
    latest.Reaches h c.server l

theorem ledger_start (p : π) : Ledger h s [] (.start p) where
  sent := rfl
  ids := rfl
  nextId := rfl
  turns := rfl
  started := by simp [conversations]
  read := by simp [conversations]
  decided := by simp [conversations]
  channel := by simp [start]

variable {done : List (Deed π)} {d : Deed π}

/-- More turns are taken. -/
theorem Tally.talked (ht : Tally done c) {u : Client π} (hsent : u.sent = c.sent)
    (hid : u.nextId = c.nextId) (htalk : Talk h u d.turns c') : Tally (done ++ [d]) c' := by
  have hids : (turnsOf (done ++ [d])).filterMap Turn.id? =
      (turnsOf done).filterMap Turn.id? ++ d.turns.filterMap Turn.id? := by
    rw [turnsOf_concat, List.filterMap_append]
  have hnext : u.nextId = 1 + ((turnsOf done).filterMap Turn.id?).length := hid.trans ht.nextId
  refine ⟨?_, ?_, ?_⟩
  · rw [htalk.sent, hsent, ht.sent, turnsOf_concat, List.flatMap_append]
  · rw [hids, List.length_append, List.range'_append_1.symm, ← ht.ids, ← hnext, ← htalk.ids]
  · rw [htalk.nextId, hnext, hids, List.length_append, Nat.add_assoc]

/-- What counts is the channel, the number of the next request and what was sent. -/
theorem Ledger.congr (hk : Ledger h s done c) (hsent : c'.sent = c.sent)
    (hid : c'.nextId = c.nextId)
    (hlink : ∀ l, c'.link = some l → c.link = some l ∧ c'.server = c.server) :
    Ledger h s done c' := by
  refine ⟨⟨hsent.trans hk.sent, hk.ids, hid.trans hk.nextId⟩, hk.turns, hk.started, hk.read,
    hk.decided, ?_⟩
  intro l hl
  obtain ⟨hc, hserver⟩ := hlink l hl
  rw [hserver]
  exact hk.channel l hc

/-- A client that lets its server go leaves the ledger as it is. -/
theorem Ledger.parted (hk : Ledger h s done c) : Ledger h s done c.parted :=
  hk.congr rfl rfl (by simp [Client.parted])

/-- A deed without turns. -/
theorem Ledger.silent (hk : Ledger h s done c) (hd : d.started = none) (hturns : d.turns = []) :
    Ledger h s (done ++ [d]) c := by
  have hsame : turnsOf (done ++ [d]) = turnsOf done := by
    rw [turnsOf_concat, hturns, List.append_nil]
  have htalks : conversations (done ++ [d]) = conversations done :=
    conversations_of_silent hd hturns
  obtain ⟨⟨hsent, hids, hid⟩, hturns, hstarted, hread, hdecided, hchannel⟩ := hk
  exact ⟨⟨by rwa [hsame], by rwa [hsame], by rwa [hsame]⟩, by rwa [hsame, htalks],
    by rwa [htalks], by rwa [htalks], by rwa [htalks], by rwa [htalks]⟩

/-- The latest conversation goes on. -/
theorem Ledger.talked (hk : Ledger h s done c) (hd : d.started = none)
    (htalk : Talk h c d.turns c') : Ledger h s (done ++ [d]) c' := by
  obtain ⟨l, l', hl, hl', -⟩ := htalk.link
  obtain ⟨latest, older, htalks, hlatest⟩ := hk.channel l hl
  have hextended : (latest.extend d.turns).Reaches h c'.server l' := hlatest.extend htalk hl hl'
  have hconcat : conversations (done ++ [d]) = latest.extend d.turns :: older :=
    conversations_of_not_started hd htalks
  have hstarted := hk.started
  have hread := hk.read
  have hdecided := hk.decided
  rw [htalks, List.forall_mem_cons] at hstarted hread hdecided
  refine ⟨hk.toTally.talked rfl rfl htalk, ?_, ?_, ?_, ?_, ?_⟩
  · rw [turnsOf_concat, hk.turns, hconcat, htalks]
    simp [Conversation.extend]
  · rw [hconcat, List.forall_mem_cons]
    exact hstarted
  · rw [hconcat, List.forall_mem_cons]
    exact ⟨hextended.read_prefix, hread.2⟩
  · rw [hconcat, List.forall_mem_cons]
    exact ⟨hdecided.1.extend hlatest htalk hl, hdecided.2⟩
  · intro u hu
    obtain rfl : u = l' := Option.some.inj (hu.symm.trans hl')
    exact ⟨_, older, hconcat, hextended⟩

/-- A new conversation begins. -/
theorem Ledger.met (hk : Ledger h s done c) {place server : π} (hd : d.started = some server)
    (hstart : h.start place s.command s.args = .ok server)
    (htalk : Talk h (c.reached server) d.turns c') : Ledger h s (done ++ [d]) c' := by
  obtain ⟨l, l', hl, hl', hdeliver⟩ := htalk.link
  obtain rfl : Link.fresh = l := Option.some.inj hl
  have hmet : Conversation.Reaches h ⟨server, d.turns⟩ c'.server l' := hdeliver
  have hconcat : conversations (done ++ [d]) = ⟨server, d.turns⟩ :: conversations done :=
    conversations_of_started hd
  refine ⟨hk.toTally.talked (u := c.reached server) rfl rfl htalk, ?_, ?_, ?_, ?_, ?_⟩
  · rw [turnsOf_concat, hk.turns, hconcat]
    simp
  · rw [hconcat, List.forall_mem_cons]
    exact ⟨⟨place, hstart⟩, hk.started⟩
  · rw [hconcat, List.forall_mem_cons]
    exact ⟨hmet.read_prefix, hk.read⟩
  · rw [hconcat, List.forall_mem_cons]
    exact ⟨htalk.decided .fresh rfl, hk.decided⟩
  · intro u hu
    obtain rfl : u = l' := Option.some.inj (hu.symm.trans hl')
    exact ⟨_, _, hconcat, hmet⟩

/-- **Each operation keeps the ledger.** -/
theorem ledger_of_effect (hlinked : c.initialized = c.link.isSome) (hk : Ledger h s done c)
    (heffect : Effect h s c d c') : Ledger h s (done ++ [d]) c' := by
  cases heffect with
  | connectedAlready => exact hk.silent rfl rfl
  | notStarted hc reason hstart =>
      have hnone : c.link = none := by simpa [hc] using hlinked
      refine Ledger.silent ?_ rfl rfl
      exact hk.congr rfl rfl (by simp [hnone])
  | introduced hc server hstart x hx hlimit v hending u htalk =>
      refine Ledger.congr (c := u) ?_ rfl rfl (by simp)
      exact hk.met rfl hstart htalk
  | refused hc server hstart x hx hlimit failure hending u htalk =>
      refine Ledger.parted ?_
      exact hk.met rfl hstart htalk
  | lost hc server hstart x hx hlimit v hending failure u htalk =>
      refine Ledger.parted ?_
      exact hk.met rfl hstart htalk
  | notCalled => exact hk.silent rfl rfl
  | called hc tool arguments x hx hlimit u htalk => exact hk.talked rfl htalk
  | closed =>
      refine Ledger.silent ?_ rfl rfl
      exact hk.parted

/-- **The ledger of a client** that began without a server, whatever it was asked for. -/
theorem ledger_of_course {p : π} {deeds : List (Deed π)} (hcourse : Course h s (.start p) deeds c) :
    c.initialized = c.link.isSome ∧ Ledger h s deeds c := by
  have hstep : ∀ (done : List (Deed π)) (u : Client π) (d : Deed π) (v : Client π),
      u.initialized = u.link.isSome ∧ Ledger h s done u → Effect h s u d v →
      v.initialized = v.link.isSome ∧ Ledger h s (done ++ [d]) v :=
    fun done u d v hu heffect =>
      ⟨linked_of_effect hu.1 heffect, ledger_of_effect hu.1 hu.2 heffect⟩
  have hstart : (start p).initialized = (start p).link.isSome ∧ Ledger h s [] (start p) :=
    ⟨rfl, ledger_start p⟩
  exact Course.induction hstep hstart hcourse

end Client

end Channel

end Scenarist
