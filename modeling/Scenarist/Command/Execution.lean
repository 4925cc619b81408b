import Scenarist.Command.Host
import Scenarist.Command.Invocation
import Scenarist.Run.Bundle
import Scenarist.Yaml.Printer

/-!
# Carrying out tasks

What the program does for each task, on any host. Output for machines is one document; output for
people is made of rows and of remarks that may be coloured. What has been printed or written stays
when a task fails later on.
-/

namespace Scenarist.Command

variable {π : Type} {m : Type → Type} [Monad m]

/-! ### Printing -/

/-- Where and how a task prints. -/
structure Screen (m : Type → Type) where
  print : String → m Unit
  colours : Bool
  format : Layout.Format

namespace Screen

/-- Prints a line. -/
def line (s : Screen m) (text : String) : ExceptT Trouble m Unit := s.print (text ++ "\n")

/-- Prints a value as a document. -/
def document (s : Screen m) (v : Json) : ExceptT Trouble m Unit :=
  s.line (if s.format = .yaml then Yaml.render v else v.pretty)

/-- Prints rows, or what stands in their place. -/
def rows (s : Screen m) (t : Layout.Table) (empty : String) : ExceptT Trouble m Unit :=
  s.line (Layout.renderRows t empty s.format)

/-- Prints a remark behind a mark. -/
def remark (s : Screen m) (ink : Ink) (mark text : String) : ExceptT Trouble m Unit :=
  s.line (ink.paint s.colours mark ++ " " ++ text)

/-- Prints that something is done. -/
def success (s : Screen m) (text : String) : ExceptT Trouble m Unit := s.remark .green "✓" text

/-- Prints a warning. -/
def warning (s : Screen m) (text : String) : ExceptT Trouble m Unit := s.remark .yellow "⚠" text

/-- Prints what is being done. -/
def info (s : Screen m) (text : String) : ExceptT Trouble m Unit := s.remark .cyan "→" text

/-- Prints spec files, the name of each above its text. -/
def sources (s : Screen m) (files : List SpecFile) : ExceptT Trouble m Unit :=
  files.forM fun f => do
    s.line (Ink.paint s.colours .dim ("// " ++ f.fileName))
    s.line f.source

end Screen

/-! ### Tasks -/

/-- Makes a directory and writes spec files into it; tells how many. -/
def writeFilesInto (d : Disk m) (files : List SpecFile) (dir : String) :
    ExceptT Trouble m Nat := do
  let made ← d.makeDirectories dir
  let _ ← (made.mapError fun e => Trouble.plain e.message : Except Trouble Unit)
  let paths ← Bundle.writeFiles d dir files
  return paths.length

/-- Makes spec files of the scenarios in a file, and writes them into directories or prints
them. -/
def compileFile (h : Host π m) (screen : Screen m) (spec : SpecOptions) (input : String)
    (dirs : List String) : ExceptT Trouble m Unit := do
  let scenarios ← Bundle.load h.disk input
  let clock ← h.clock
  let files := SpecFile.ofScenarios scenarios spec (clock 0)
  let written ← dirs.mapM (writeFilesInto h.disk files)
  if screen.format.isStructured then screen.document (.array (files.map SpecFile.toJson))
  else if dirs.isEmpty then screen.sources files
  else
    screen.rows (Layout.FileRow.table (files.map Layout.FileRow.ofFile)) "No files compiled"
    screen.success (Decimal.natText (written.foldr (· + ·) 0) ++ " file(s) written")

/-- Writes repaired scenarios into a file. -/
def writeRepaired (h : Host π m) (screen : Screen m) (scenarios : List Scenario) (path : String) :
    ExceptT Trouble m Unit := do
  let _ ← Bundle.writeFile h.disk path (Scenario.listToJson scenarios).pretty
  if !screen.format.isStructured then
    screen.success ("Repaired scenarios written to " ++ path)

/-- Repairs the scenarios in a file on the live page. -/
def repairFile (h : Host π m) (screen : Screen m) (s : Settings) (input url : String)
    (output : Option String) : ExceptT Trouble m Unit := do
  let scenarios ← Bundle.load h.disk input
  let report ← h.play (Repair.within (Channel.Client.backend h.servers s.automation)
    s.automation.tools s.repair.stepDelayMs url scenarios s.repair.limitMs?)
  if screen.format.isStructured then screen.document report.toJson
  else
    screen.rows (Layout.ScenarioRow.table (report.entries.map Layout.ScenarioRow.ofRepair))
      "No scenarios to repair"
    if !report.validationSucceeded then
      screen.warning "Selector validation incomplete; unrepaired scenarios were kept"
  match output with
  | some path => writeRepaired h screen report.scenarios path
  | none => return ()

/-- The rows for the scenarios of a run. -/
def runRows (o : RunOutput) : List Layout.ScenarioRow :=
  match o.report with
  | some r => r.entries.map Layout.ScenarioRow.ofRepair
  | none => o.after.scenarios.map (Layout.ScenarioRow.ofScenario · "not repaired")

/-- Prints a summary of a run, `written` being the number of files it left. -/
def summarize (screen : Screen m) (o : RunOutput) (written : Nat) : ExceptT Trouble m Unit := do
  let metadata := o.after.metadata
  screen.rows (Layout.ScenarioRow.table (runRows o)) "No scenarios generated"
  screen.line (Ink.paint screen.colours .bold "Run:" ++ " " ++ o.runId)
  if o.report.isSome && !metadata.validationSucceeded then
    screen.warning "Selector validation incomplete; unrepaired steps were kept as generated"
  if o.files.isEmpty then screen.warning "No scenarios were generated"
  else if written = 0 then screen.sources o.files
  else
    screen.success (Decimal.natText o.files.length ++ " spec file(s), " ++
      Decimal.natText metadata.improvedSteps ++ " improved step(s), " ++
      Decimal.natText written ++ " file(s) written in " ++
      Decimal.natText metadata.totalTimeMs ++ " ms")

/-- Runs a request and writes its files into directories. -/
def runRequest (h : Host π m) (screen : Screen m) (s : Settings) (r : Request)
    (dirs : List String) : ExceptT Trouble m Unit := do
  let client ← Trouble.ofFailure "Failed to set up pipeline" (Gemini.Client.ofSettings s.gemini)
  if !screen.format.isStructured then
    screen.info ("Generating scenarios for " ++ Ink.paint screen.colours .cyan r.targetUrl ++
      " with " ++ s.gemini.model)
  let pipeline := Pipeline.ofSettings s
  let clock ← h.clock
  let id ← h.freshId
  let reply ← (Gemini.complete h.send client (s.generator.prompt r) : m (Except Failure String))
  let result ← h.play (pipeline.run (Channel.Client.backend h.servers s.automation) clock id
    (fun _ => reply) r)
  let output ← Trouble.ofFailure "Generation failed" result
  let written ← Bundle.persist h.disk output dirs
  if screen.format.isStructured then screen.document output.toJson
  else summarize screen output written.length

/-- The settings as they may be shown: the key is not. -/
def shownSettings (s : Settings) : Settings :=
  { s with gemini := { s.gemini with apiKey := s.gemini.apiKey.map fun _ => "<redacted>" } }

/-- Shows the settings that are kept in a file. -/
def showSettings (screen : Screen m) (s : Settings) (path : String) : ExceptT Trouble m Unit := do
  let shown := shownSettings s
  if screen.format.isStructured then screen.document shown.toJson
  else
    screen.line ("# " ++ path)
    let text ← orTrouble shown.toToml
    screen.print text

/-- Writes the settings where nothing is said into a file; one that is there stays, unless it is
to be overwritten. -/
def initSettings (h : Host π m) (screen : Screen m) (path : String) (force : Bool) :
    ExceptT Trouble m Unit := do
  let there ← h.disk.exists? path
  if there && !force then
    throw (.plain (path ++ " already exists (use --force to overwrite)"))
  saveSettings h.disk .default path
  screen.success ("Wrote default configuration to " ++ path)

/-- Prints the versions of the program and of the form of its scenarios. -/
def printVersion (screen : Screen m) : ExceptT Trouble m Unit := do
  screen.line (programName ++ " v" ++ edition)
  screen.line ("Scenario IR v" ++ scenarioEdition)

/-- Carries out a task under the settings that are kept in a file. -/
def carryOut (h : Host π m) (screen : Screen m) (s : Settings) (path : String) :
    Task → ExceptT Trouble m Unit
  | .generate request dirs repairs choice =>
    let repair := { s.repair with enabled := s.repair.enabled && repairs }
    runRequest h screen { s with spec := choice.apply s.spec, repair := repair } request dirs
  | .compile input dirs choice => compileFile h screen (choice.apply s.spec) input dirs
  | .repair input url output => repairFile h screen s input url output
  | .showSettings => showSettings screen s path
  | .initSettings force => initSettings h screen path force
  | .version => printVersion screen

/-! ### The program -/

/-- The variables of the environment that matter to colours. -/
def colourVariables : List String := ["CLICOLOR_FORCE", "NO_COLOR"]

/-- The environment asks for colours. -/
def forcesColours (env : String → Option String) : Bool := (env "CLICOLOR_FORCE").any (· != "0")

/-- Mistakes are coloured, which the environment can prevent. -/
def coloursMistakes (env : String → Option String) : Bool :=
  forcesColours env && !(env "NO_COLOR").any (· != "")

/-- The environment of the settings. -/
def settingsEnvironment (env : String → Option String) : Environment :=
  ⟨env "GEMINI_API_KEY", env "TESTFORGE_GEMINI_MODEL", env "TESTFORGE_MCP_COMMAND", env "HOME"⟩

/-- Every variable of the environment that matters. -/
def variableNames : List String :=
  parameterVariables ++ colourVariables ++
    ["GEMINI_API_KEY", "TESTFORGE_GEMINI_MODEL", "TESTFORGE_MCP_COMMAND", "HOME"]

/-- Carries out an invocation. -/
def invoke (h : Host π m) (env : String → Option String) (i : Invocation) :
    ExceptT Trouble m Unit := do
  let e := settingsEnvironment env
  let path := i.settingsPath.getD e.settingsPath
  let settings ← loadSettings h.disk e path
  carryOut h ⟨h.print, forcesColours env, i.format⟩ settings path i.task

/-- The report of trouble: what it is about, and the causes below. -/
def reportOf (t : Trouble) : String :=
  let cause := fun (c : String) => "    " ++ c ++ "\n"
  "Error: " ++ t.headline ++ "\n" ++
    (if t.causes.isEmpty then "" else "\nCaused by:\n" ++ String.join (t.causes.map cause))

/-- Runs the program with the words of a command line and tells its exit code. -/
def execute (h : Host π m) (env : String → Option String) (words : List String) : m Nat := do
  match parse env words with
  | .error (.help text) => do h.print text; return 0
  | .error (.version text) => do h.print text; return 0
  | .error (.incomplete text) => do h.printError text; return 2
  | .error (.mistake e) => do h.printError (e.report (coloursMistakes env)); return 2
  | .ok i =>
    match ← (invoke h env i).run with
    | .ok () => return 0
    | .error t => do h.printError (reportOf t); return 1

end Scenarist.Command
