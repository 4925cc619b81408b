import Scenarist.Failure
import Scenarist.Json.Basic

/-!
# Backends and what they are asked

A backend is asked to connect, to call a tool and to close. Each of these takes a time, during
which nothing else happens, or never comes to an end. What is asked is kept in a log, together
with the reaction, and may be cut short when a deadline passes.

`Play` is a course of such events: it ends with a value, is interrupted by the deadline, or is
interrupted by a panic of the backend.
-/

namespace Scenarist

/-- The answer of a tool. -/
structure ToolReply where
  isError : Bool
  text : String
deriving DecidableEq, Repr, Inhabited

/-- Something that takes a number of milliseconds, or forever. -/
inductive Timed (α : Type) where
  | never
  | after (delay : Nat) (result : α)
deriving Repr

/-- How the call of a tool ends: with an answer or a failure, or with a panic that may have a
message. -/
inductive CallEnd where
  | answered (result : Except Failure ToolReply)
  | panicked (message : Option String)
deriving Repr

/-- A backend with states `σ`: each request changes the state when it is made, and has its effect
on whoever made it when its time has passed. -/
structure Backend (σ : Type) where
  connect : σ → σ × Timed (Except Failure Unit)
  call : σ → String → Json → σ × Timed CallEnd
  close : σ → σ × Timed Unit

/-- A request that was made of a backend, when it was made, and the reaction. -/
inductive Event where
  | connect (at_ : Nat) (reaction : Timed (Except Failure Unit))
  | call (at_ : Nat) (tool : String) (arguments : Json) (reaction : Timed CallEnd)
  | close (at_ : Nat) (reaction : Timed Unit)
deriving Repr

/-- Where a session stands with its backend. -/
inductive SessionState where
  | disconnected
  | connecting
  | connected
  | closed
deriving DecidableEq, Repr

namespace SessionState

/-- The name of a state. -/
def name : SessionState → String
  | disconnected => "disconnected"
  | connecting => "connecting"
  | connected => "connected"
  | closed => "closed"

/-- The name of a state in the description of a session. -/
def label : SessionState → String
  | disconnected => "Disconnected"
  | connecting => "Connecting"
  | connected => "Connected"
  | closed => "Closed"

end SessionState

/-- A session, its backend, the time, and everything that was asked so far. -/
structure World (σ : Type) where
  backend : σ
  state : SessionState
  /-- Some connect reached the backend. -/
  attempted : Bool
  /-- Milliseconds since the beginning. -/
  now : Nat
  log : List Event

/-- The world of a session that has not begun. -/
def World.start {σ : Type} (backend : σ) : World σ := ⟨backend, .disconnected, false, 0, []⟩

/-- The same world with a session that has not begun. -/
def World.anew {σ : Type} (w : World σ) : World σ :=
  { w with state := .disconnected, attempted := false }

/-- Why a course of events did not come to its end. -/
inductive Interrupt where
  /-- The deadline passed first, or there is none and the end never comes. -/
  | cut
  /-- The backend panicked. -/
  | panicked (message : Option String)
deriving DecidableEq, Repr

/-- A course of events under a deadline. -/
def Play (σ α : Type) : Type := Option Nat → World σ → Except Interrupt α × World σ

namespace Play

variable {σ α β : Type}

/-- Nothing happens. -/
def done (a : α) : Play σ α := fun _ w => (.ok a, w)

/-- One course of events after another. -/
def andThen (p : Play σ α) (f : α → Play σ β) : Play σ β := fun deadline w =>
  match p deadline w with
  | (.ok a, w) => f a deadline w
  | (.error i, w) => (.error i, w)

instance : Monad (Play σ) where
  pure := done
  bind := andThen

/-- The world as it is. -/
def look : Play σ (World σ) := fun _ w => (.ok w, w)

/-- Changes the world without taking time. -/
def change (f : World σ → World σ) : Play σ Unit := fun _ w => (.ok (), f w)

/-- Stops with an interrupt. -/
def interrupt (i : Interrupt) : Play σ α := fun _ w => (.error i, w)

/-- Waits for the end of something; a deadline before it cuts the course of events. -/
def await (t : Timed α) : Play σ α := fun deadline w =>
  match t, deadline with
  | .never, some d => (.error .cut, { w with now := d })
  | .never, none => (.error .cut, w)
  | .after delay a, some d =>
    if d < w.now + delay then (.error .cut, { w with now := d })
    else (.ok a, { w with now := w.now + delay })
  | .after delay a, none => (.ok a, { w with now := w.now + delay })

/-- Lets time pass. -/
def sleep (ms : Nat) : Play σ Unit := await (.after ms ())

/-- Turns a panic into a value. -/
def attempt (p : Play σ α) : Play σ (Except (Option String) α) := fun deadline w =>
  match p deadline w with
  | (.ok a, w) => (.ok (.ok a), w)
  | (.error (.panicked m), w) => (.ok (.error m), w)
  | (.error .cut, w) => (.error .cut, w)

/-- Asks the backend for something and waits for it. -/
def ask (request : σ → σ × Timed α) (event : Nat → Timed α → Event) : Play σ α := fun deadline w =>
  let (b, t) := request w.backend
  await t deadline { w with backend := b, log := w.log ++ [event w.now t] }

end Play

end Scenarist
