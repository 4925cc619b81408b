import Scenarist.Channel.Client
import Scenarist.Files.Disk
import Scenarist.Files.Trouble
import Scenarist.Gemini.Client
import Scenarist.Settings.File
import Scenarist.Text.Path
import Scenarist.Time.Instant

/-!
# Hosts

What the program needs of the machine it runs on, in any monad: files, a place to print to, the
time of day, fresh ids, the web, and a place where servers are started.
-/

namespace Scenarist.Command

/-- The machine the program runs on; its servers have states `π`. -/
structure Host (π : Type) (m : Type → Type) where
  disk : Disk m
  print : String → m Unit
  printError : String → m Unit
  /-- The time of day, a number of milliseconds from now. -/
  clock : m (Nat → Instant)
  freshId : m String
  send : Gemini.Query → m Gemini.Exchange
  servers : Channel.Server π
  /-- The servers as they are. -/
  current : m π
  /-- Leaves the servers in a state. -/
  leave : π → m Unit

variable {π : Type} {m : Type → Type} [Monad m]

/-- Plays a course of events with the servers of a host. -/
def Host.play {α : Type} (h : Host π m) (p : Play (Channel.Client π) α) : ExceptT Trouble m α := do
  let servers ← h.current
  let (result, w) := p none (.start (.start servers))
  h.leave w.backend.server
  match result with
  | .ok a => return a
  | .error _ => throw (.plain "the automation backend did not answer")

/-- The result of a file operation, a failure being one of input or output. -/
def ofIo {α : Type} : Except FileError α → Except Failure α
  | .ok a => .ok a
  | .error e => .error (.io e.message)

/-- A result, a failure being reported in its own words. -/
def orTrouble {α : Type} : Except Failure α → Except Trouble α
  | .ok a => .ok a
  | .error e => .error (.plain e.message)

/-- Loads the settings from a file, if there is one. -/
def loadSettings (d : Disk m) (e : Environment) (path : String) : ExceptT Trouble m Settings := do
  let headline := "Failed to load " ++ path
  if ← d.exists? path then
    let r ← d.read path
    let text ← Trouble.ofFailure headline (ofIo r)
    Trouble.ofFailure headline (Settings.load e (some text))
  else Trouble.ofFailure headline (Settings.load e none)

/-- Saves settings in a file, whose directory is made if it is missing. -/
def saveSettings (d : Disk m) (s : Settings) (path : String) : ExceptT Trouble m Unit := do
  let text ← orTrouble s.toToml
  let made ← d.makeDirectories (Path.parent path)
  orTrouble (ofIo made)
  let written ← d.write path text
  orTrouble (ofIo written)

end Scenarist.Command
