import Scenarist.Layout.Table
import Scenarist.Repair.Report
import Scenarist.Spec.Source

/-!
# Summaries

What the program shows of scenarios and of files: a row for each. Rows are shown as a table, or
in plain lines with a heading before each value.
-/

namespace Scenarist.Layout

/-- The forms of output. -/
inductive Format where
  | table
  | json
  | yaml
  | plain
deriving DecidableEq, Repr, Inhabited

namespace Format

/-- The form is a document for machines. -/
def isStructured : Format → Bool
  | json => true
  | yaml => true
  | _ => false

/-- The name of a form. -/
def name : Format → String
  | table => "table"
  | json => "json"
  | yaml => "yaml"
  | plain => "plain"

/-- The forms in the order in which they are listed. -/
def all : List Format := [table, json, yaml, plain]

end Format

/-- Plain lines, one for each heading and value. -/
def plainRow (headings row : List String) : String :=
  "\n".intercalate ((headings.zip row).map fun (h, v) => h ++ ": " ++ v)

/-- Rows in the given form; where there are none, a text in their place. -/
def renderRows (t : Table) (empty : String) (format : Format) : String :=
  if t.rows.isEmpty then empty
  else if format = .plain then "\n---\n".intercalate (t.rows.map (plainRow t.headings))
  else t.render

/-- The summary of a scenario. -/
structure ScenarioRow where
  id : String
  name : String
  steps : Nat
  tags : String
  status : String
  time : String
deriving DecidableEq, Repr

namespace ScenarioRow

/-- The summary of a scenario with a status. -/
def ofScenario (s : Scenario) (status : String) : ScenarioRow :=
  ⟨s.id, s.name, s.steps.length, s.tags.text, status, s.timeTaken.getD "-"⟩

/-- The summary of a scenario after its repair. -/
def ofRepair (r : ScenarioRepair) : ScenarioRow :=
  let status := match r.outcome.reason? with
    | some reason => "kept: " ++ reason
    | none => "repaired (" ++ Decimal.natText r.improved ++ " improved, " ++
        Decimal.natText r.degradedSteps ++ " kept)"
  ofScenario r.scenario status

/-- The cells of a summary. -/
def cells (r : ScenarioRow) : List String :=
  [r.id, r.name, Decimal.natText r.steps, r.tags, r.status, r.time]

/-- Summaries as a table. -/
def table (rows : List ScenarioRow) : Table :=
  ⟨["ID", "Name", "Steps", "Tags", "Status", "Time"], rows.map cells⟩

/-- A summary as a value. -/
def toJson (r : ScenarioRow) : Json :=
  .object [
    ("id", .string r.id),
    ("name", .string r.name),
    ("steps", .nat r.steps),
    ("tags", .string r.tags),
    ("status", .string r.status),
    ("time", .string r.time)]

end ScenarioRow

/-- The summary of a file. -/
structure FileRow where
  scenario : String
  file : String
  lines : Nat
deriving DecidableEq, Repr

namespace FileRow

/-- The number of lines of a text; an end of line at its end begins no new one. -/
def countLines (cs : List Char) : Nat :=
  cs.count '\n' + (match cs.getLast? with
    | none => 0
    | some c => if c = '\n' then 0 else 1)

/-- The summary of a spec file. -/
def ofFile (f : SpecFile) : FileRow := ⟨f.scenarioId, f.fileName, countLines f.source.toList⟩

/-- The cells of a summary. -/
def cells (r : FileRow) : List String := [r.scenario, r.file, Decimal.natText r.lines]

/-- Summaries as a table. -/
def table (rows : List FileRow) : Table := ⟨["Scenario", "File", "Lines"], rows.map cells⟩

/-- A summary as a value. -/
def toJson (r : FileRow) : Json :=
  .object [("scenario", .string r.scenario), ("file", .string r.file), ("lines", .nat r.lines)]

end FileRow

end Scenarist.Layout
