import Scenarist.Files.Disk
import Scenarist.Files.Trouble
import Scenarist.Run.Pipeline
import Scenarist.Text.Path

/-!
# Bundles

The files a run leaves behind: into each directory go its two snapshots and the spec file of every
scenario. Scenarios are loaded from a snapshot, from any object that has them, or from a plain list.
-/

namespace Scenarist.Bundle

variable {m : Type → Type} [Monad m]

/-- Writes a file and tells its path. -/
def writeFile (d : Disk m) (path content : String) : ExceptT Trouble m String := do
  let r ← d.write path content
  let _ ← Trouble.ofFile ("Failed to write " ++ path) r
  return path

/-- Writes a snapshot into a directory. -/
def writeSnapshot (d : Disk m) (dir : String) (x : Snapshot) : ExceptT Trouble m String :=
  writeFile d (Path.join dir x.fileName) x.toJson.pretty

/-- Writes spec files into a directory. -/
def writeFiles (d : Disk m) (dir : String) (files : List SpecFile) :
    ExceptT Trouble m (List String) :=
  files.mapM fun f => writeFile d (Path.join dir f.fileName) f.source

/-- Writes the files of a run into a directory. -/
def writeInto (d : Disk m) (o : RunOutput) (dir : String) : ExceptT Trouble m (List String) := do
  let r ← d.makeDirectories dir
  let _ ← Trouble.ofFile ("Failed to create " ++ dir) r
  let before ← writeSnapshot d dir o.before
  let after ← writeSnapshot d dir o.after
  let files ← writeFiles d dir o.files
  return before :: after :: files

/-- Writes the files of a run into every directory, and tells their paths. -/
def persist (d : Disk m) (o : RunOutput) (dirs : List String) :
    ExceptT Trouble m (List String) := do
  let written ← dirs.mapM (writeInto d o)
  return written.flatten

/-- The value that holds the scenarios of a file. -/
def scenarioList? : Json → Option Json
  | .array items => some (.array items)
  | v => v.member? "scenarios"

/-- The scenarios in the text of the file with the given path. -/
def ofText (path text : String) : Except Trouble (List Scenario) :=
  match Json.parse? text with
  | none => .error (.plain (path ++ " is not valid JSON"))
  | some v =>
    match scenarioList? v with
    | none => .error (.plain (path ++ " has no scenarios"))
    | some list =>
      match Scenario.readList .tree (.ofJson list) with
      | .ok scenarios => .ok scenarios
      | .error (.mismatch i) => .error ⟨path ++ " contains malformed scenarios", [i.message]⟩
      | .error .malformed => .error (.plain (path ++ " contains malformed scenarios"))

/-- Loads scenarios from a file. -/
def load (d : Disk m) (path : String) : ExceptT Trouble m (List Scenario) := do
  let r ← d.read path
  let text ← Trouble.ofFile ("Failed to read " ++ path) r
  ofText path text

end Scenarist.Bundle
