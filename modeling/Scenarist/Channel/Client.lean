import Scenarist.Channel.Message
import Scenarist.Settings.Basic
import Scenarist.Time.Span

/-!
# Clients

A client starts a server, introduces itself, and asks it to call tools. It waits for the response
to each request before the next one; meanwhile it answers the requests of the server and skips
everything else that the server writes. A server that stays silent until the limit has passed, or
that ends, makes the request fail.
-/

namespace Scenarist.Channel

/-- How the output of a running server goes on once everything written so far is read. -/
inductive Output where
  | silent
  | closed
  /-- It cannot be read, for instance because what comes next is no text. -/
  | broken (reason : String)
deriving DecidableEq, Repr

/-- The other end: a place where servers are started, with states `π`. A server takes a line,
writes lines, and perhaps ends. -/
structure Server (π : Type) where
  start : π → String → List String → Except String π
  take : π → List Char → π × List (List Char) × Bool
  /-- The server that is running does not end when its input does. -/
  lingers : π → Bool
  /-- What has happened by itself when the client turns to the other end again: the lines that the
  running server has written, and whether it has ended. -/
  meanwhile : π → π × List (List Char) × Bool := fun p => (p, [], false)
  /-- Why the running server cannot be written to, if it cannot. -/
  refuses : π → Option String := fun _ => none
  output : π → Output := fun _ => .silent

/-- The connection to a running server: the lines it has written that are not yet read, and
whether it has ended. -/
structure Link where
  inbox : List (List Char)
  ended : Bool
deriving Repr

/-- The connection to a server that has just been started. -/
def Link.fresh : Link := ⟨[], false⟩

/-- A client. -/
structure Client (π : Type) where
  server : π
  link : Option Link
  initialized : Bool
  nextId : Nat
  /-- The messages that were to be sent, in order. -/
  sent : List Json

namespace Client

variable {π : Type}

/-- A client that has not started a server. -/
def start (server : π) : Client π := ⟨server, none, false, 1, []⟩

/-- The failure of a client without a server. -/
def notConnected : Failure := .connection "not connected"

/-- The failure of writing to a server that has ended. -/
def brokenPipe : Failure := .io "Broken pipe (os error 32)"

/-- The failure of reading from a server that has ended. -/
def outputClosed : Failure := .connection "automation server closed its output"

/-- Writes a line to the running server. -/
def write (h : Server π) (server : π) (l : Link) (cs : List Char) :
    π × Link × Except Failure Unit :=
  if l.ended then (server, l, .error brokenPipe)
  else
    let (server, before, ended) := h.meanwhile server
    let l : Link := ⟨l.inbox ++ before, ended⟩
    if ended then (server, l, .error brokenPipe)
    else
      match h.refuses server with
      | some reason => (server, l, .error (.io reason))
      | none =>
        let (server, after, ended) := h.take server cs
        (server, ⟨l.inbox ++ after, ended⟩, .ok ())

/-- Sends a message. -/
def send (h : Server π) (c : Client π) (message : Json) : Client π × Except Failure Unit :=
  let c := { c with sent := c.sent ++ [message] }
  match c.link with
  | none => (c, .error notConnected)
  | some l =>
    let (server, l, r) := write h c.server l (line message)
    ({ c with server := server, link := some l }, r)

/-- What comes of reading from a server when everything written so far is read; nothing if it stays
silent. -/
def exhausted (h : Server π) (server : π) (ended : Bool) : Option Failure :=
  if ended then some outputClosed
  else
    match h.output server with
    | .silent => none
    | .closed => some outputClosed
    | .broken reason => some (.io reason)

/-- What becomes of a line of the server while the response to the request `id` is awaited. -/
inductive Step where
  | skip
  | answer (id : Json) (method : String)
  | finish (result : Except Failure Json)

/-- Decides about a line. -/
def stepOf (id : Json) (cs : List Char) : Step :=
  match Message.ofLine? cs with
  | none => .skip
  | some m =>
    match m.id, m.method with
    | some i, none => if i == id then .finish m.outcome else .skip
    | some i, some method => .answer i method
    | none, _ => .skip

/-- Reads lines until the response to the request `id` has come, at most `patience` of them;
nothing if the server stays silent or has written too much. -/
def awaitResponse (h : Server π) (id : Json) :
    Nat → Client π → Client π × Option (Except Failure Json)
  | 0, c => (c, none)
  | patience + 1, c =>
    match c.link with
    | none => (c, some (.error notConnected))
    | some ⟨[], ended⟩ => (c, (exhausted h c.server ended).map .error)
    | some ⟨cs :: rest, ended⟩ =>
      let c := { c with link := some ⟨rest, ended⟩ }
      match stepOf id cs with
      | .skip => awaitResponse h id patience c
      | .finish r => (c, some r)
      | .answer i method =>
        match send h c (answer i method) with
        | (c, .ok ()) => awaitResponse h id patience c
        | (c, .error e) => (c, some (.error e))

/-- The number of lines that can be read within a number of milliseconds. -/
def patienceOf (limit : Nat) : Nat := limit * 1000

/-- Sends a request and waits for its response. -/
def ask (h : Server π) (c : Client π) (method : String) (params : Json) (limit : Nat) :
    Client π × Timed (Except Failure Json) :=
  let id := c.nextId
  match send h { c with nextId := id + 1 } (request id method params) with
  | (c, .error e) => (c, .after 0 (.error e))
  | (c, .ok ()) =>
    match awaitResponse h (.nat id) (patienceOf limit) c with
    | (c, some r) => (c, .after 0 r)
    | (c, none) =>
      (c, .after limit (.error (.timeout (method ++ " after " ++ Time.spanText limit))))

/-- How long a server that does not end by itself is waited for. -/
def closeGrace : Nat := 2000

/-- Lets the server end. -/
def close (h : Server π) (c : Client π) : Client π × Timed Unit :=
  let grace := match c.link with
    | some l => if !l.ended && h.lingers c.server then closeGrace else 0
    | none => 0
  ({ c with initialized := false, link := none }, .after grace ())

/-- The failure to connect in the end. -/
def connectFailure : Failure → Failure
  | .connection reason => .connection reason
  | other => .connection other.message

/-- More time, and another result. -/
def later {α β : Type} (t : Timed α) (more : Nat) (b : β) : Timed β :=
  match t with
  | .never => .never
  | .after delay _ => .after (delay + more) b

/-- Gives up connecting. -/
def abandon (h : Server π) (c : Client π) (delay : Nat) (e : Failure) :
    Client π × Timed (Except Failure Unit) :=
  let (c, closing) := close h c
  (c, later closing delay (.error (connectFailure e)))

/-- Introduces the client to its server. -/
def introduce (h : Server π) (c : Client π) (limit : Nat) :
    Client π × Timed (Except Failure Unit) :=
  match ask h c "initialize" introduction limit with
  | (c, .never) => (c, .never)
  | (c, .after delay (.error e)) => abandon h c delay e
  | (c, .after delay (.ok _)) =>
    match send h c (notification "notifications/initialized") with
    | (c, .error e) => abandon h c delay e
    | (c, .ok ()) => ({ c with initialized := true }, .after delay (.ok ()))

/-- Starts a server, unless there is one, and introduces the client to it. -/
def connect (h : Server π) (s : AutomationSettings) (c : Client π) :
    Client π × Timed (Except Failure Unit) :=
  if c.initialized then (c, .after 0 (.ok ()))
  else if c.link.isSome then introduce h c s.connectTimeoutMs
  else
    let (place, _, _) := h.meanwhile c.server
    match h.start place s.command s.args with
    | .error reason =>
      ({ c with server := place },
        .after 0 (.error (.connection ("failed to start " ++ s.command ++ ": " ++ reason))))
    | .ok server =>
      introduce h { c with server := server, link := some .fresh } s.connectTimeoutMs

/-- Calls a tool. -/
def call (h : Server π) (s : AutomationSettings) (c : Client π) (tool : String)
    (arguments : Json) : Client π × Timed (Except Failure ToolReply) :=
  if !c.initialized then (c, .after 0 (.error notConnected))
  else
    match ask h c "tools/call" (callParams tool arguments) s.callTimeoutMs with
    | (c, .never) => (c, .never)
    | (c, .after delay r) => (c, .after delay (r.bind ToolResult.replyOf))

/-- A client as a backend. -/
def backend (h : Server π) (s : AutomationSettings) : Backend (Client π) where
  connect := connect h s
  call c tool arguments :=
    let (c, t) := call h s c tool arguments
    (c, match t with
      | .never => .never
      | .after delay r => .after delay (.answered r))
  close := close h

end Client

end Scenarist.Channel
