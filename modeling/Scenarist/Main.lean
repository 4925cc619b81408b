import Scenarist.Command.Execution
import Scenarist.Text.Uuid
import Std.Time.DateTime.Timestamp

/-!
# The program

The command line on the machine at hand: its files, its clock and its streams. From here neither
the web can be reached nor another program be started, so that a request to the text service is
never answered and an automation server is never there.
-/

namespace Scenarist.Program

/-- Why an operation on files failed. -/
def fileError : IO.Error → FileError
  | .noFileOrDirectory _ _ _ => .notFound
  | .alreadyExists _ 17 _ => .exists
  | .inappropriateType _ 20 _ => .notDirectory
  | .inappropriateType _ 21 _ => .isDirectory
  | .userError _ => .notText
  | e => .other (toString e)

/-- An operation on files with its failure as a value. -/
def caught {α : Type} (action : IO α) : IO (Except FileError α) := do
  match ← action.toBaseIO with
  | .ok a => return .ok a
  | .error e => return .error (fileError e)

/-- The files of the machine. -/
def disk : Disk IO where
  exists? path := do
    match ← caught (IO.FS.readFile path) with
    | .error .notFound => return false
    | .error .notDirectory => return false
    | _ => return true
  read path := caught (IO.FS.readFile path)
  write path content := caught (IO.FS.writeFile path content)
  makeDirectories path :=
    if path.isEmpty then return .ok () else caught (IO.FS.createDirAll path)

/-- The time of day, a number of milliseconds from now. -/
def clock : IO (Nat → Instant) := do
  let now ← Std.Time.Timestamp.now
  let nanos : Int := now.toNanosecondsSinceUnixEpoch.val
  return fun ms => Instant.ofNanoseconds (nanos + ms * 1000000)

/-- A random id in the usual form: version 4, variant 1. -/
def freshId : IO String := do
  let bytes ← IO.getRandomBytes 16
  return Text.uuid (bytes.toList.map UInt8.toNat)

/-- A place where no server can be started. -/
def noServers : Channel.Server Unit where
  start _ _ _ := .error "programs cannot be started from here"
  take _ _ := ((), [], true)
  lingers _ := false

/-- The machine at hand. -/
def host : Command.Host Unit IO where
  disk := disk
  print s := do
    let out ← IO.getStdout
    out.putStr s
    out.flush
  printError s := do
    let err ← IO.getStderr
    err.putStr s
  clock := clock
  freshId := freshId
  send _ := return .failed
  servers := noServers
  current := return ()
  leave _ := return ()

/-- The variables of the environment that are set. -/
def environment : IO (List (String × String)) :=
  Command.variableNames.filterMapM fun name => do
    return (← IO.getEnv name).map fun value => (name, value)

end Scenarist.Program

/-- Runs the program. -/
def main (words : List String) : IO UInt32 := do
  let env ← Scenarist.Program.environment
  let code ← Scenarist.Command.execute Scenarist.Program.host
    (fun name => env.lookup name) words
  return code.toUInt32
