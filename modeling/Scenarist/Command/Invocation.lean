import Scenarist.Command.Arguments
import Scenarist.Layout.Rows
import Scenarist.Run.Request
import Scenarist.Spec.Options

/-!
# What the program can be told to do

The commands of the program with their parameters, and the task each of them stands for.
-/

namespace Scenarist.Command

/-- How spec files are to differ from the settings. -/
structure SpecChoice where
  strategy : Option Strategy
  language : Option Language
deriving DecidableEq, Repr

/-- The options with the choices made. -/
def SpecChoice.apply (x : SpecChoice) (o : SpecOptions) : SpecOptions :=
  { o with strategy := x.strategy.getD o.strategy, language := x.language.getD o.language }

/-- What the program does. -/
inductive Task where
  /-- Runs a request and writes its files into directories. -/
  | generate (request : Request) (dirs : List String) (repairs : Bool) (spec : SpecChoice)
  /-- Makes spec files of the scenarios in a file. -/
  | compile (input : String) (dirs : List String) (spec : SpecChoice)
  /-- Repairs the scenarios in a file on the live page. -/
  | repair (input url : String) (output : Option String)
  | showSettings
  /-- Writes the settings where nothing is said into a file. -/
  | initSettings (force : Bool)
  | version
deriving Repr

/-- A command line that was understood. -/
structure Invocation where
  /-- Where the settings are kept, if it was said. -/
  settingsPath : Option String
  format : Layout.Format
  task : Task
deriving Repr

/-! ### Parameters -/

/-- The parameters of every command. -/
def sharedParameters : List Parameter := [
  { Parameter.option "config" "Configuration file (defaults to ~/.testforge/config.toml)" 0 with
    variable_ := some "TESTFORGE_CONFIG"
    refusesEmpty := true },
  { Parameter.option "format" "Output format" 1 with
    preset := some "table"
    choices := [
      ⟨"table", some "Human-readable table format"⟩,
      ⟨"json", some "JSON format"⟩,
      ⟨"yaml", some "YAML format"⟩,
      ⟨"plain", some "Plain text format"⟩] },
  { Parameter.flag "verbose" "Enable verbose output" 2 with short := some 'v' }]

/-- The choice of locators, at the given place. -/
def strategyParameter (order : Nat) : Parameter :=
  { Parameter.option "strategy" "Selector emission strategy" order with
    choices := [
      ⟨"role-first", some "Role and text locators where the target allows it"⟩,
      ⟨"css", some "Raw selectors only"⟩] }

/-- The choice of a language, at the given place. -/
def languageParameter (order : Nat) : Parameter :=
  { Parameter.option "language" "Output language" order with
    choices := [⟨"ts", none⟩, ⟨"js", none⟩] }

/-- Directories to write to, at the given place. -/
def directoriesParameter (about : String) (order : Nat) : Parameter :=
  { Parameter.option "output_dirs" about order with
    kind := .repeated
    short := some 'o'
    long := some "output-dir"
    refusesEmpty := true }

/-- The page to start from, at the given place. -/
def urlParameter (order : Nat) : Parameter :=
  { Parameter.option "url" "Page the scenarios start from" order with
    short := some 'u'
    isRequired := true }

/-- The file with the scenarios. -/
def inputParameter : Parameter :=
  { Parameter.argument "input" "Snapshot or scenario list (JSON)" with refusesEmpty := true }

/-! ### Values -/

/-- The value of a parameter that has one always. -/
def Values.text (vs : Values) (id : String) : String := (vs.text? id).getD ""

/-- The choices for spec files. -/
def Values.specChoice (vs : Values) : SpecChoice where
  strategy := (vs.text? "strategy").map fun s => if s = "css" then .css else .roleFirst
  language := (vs.text? "language").map fun l => if l = "js" then .javaScript else .typeScript

/-- The form of output. -/
def Values.format (vs : Values) : Layout.Format :=
  (Layout.Format.all.find? fun f => some f.name == vs.text? "format").getD .table

/-- The request of a run. -/
def Values.request (vs : Values) : Request where
  objective := vs.text "objective"
  targetUrl := vs.text "url"
  credentials := (vs.text? "username").map fun u => ⟨u, vs.text? "password"⟩
  runId := vs.text? "run_id"

/-- The invocation for a task. -/
def Values.invocation (task : Values → Task) (vs : Values) : Invocation where
  settingsPath := vs.text? "config"
  format := vs.format
  task := task vs

/-! ### Commands -/

/-- The name of the program. -/
def programName : String := "testforge"

/-- The version of the program. -/
def edition : String := "0.1.0"

/-- Runs a request. -/
def generateCommand : Command Invocation :=
  .task "generate" "Generate, repair and compile tests for an objective" [
    Parameter.argument "objective" "What the tests should cover, in plain language",
    urlParameter 0,
    Parameter.option "username" "Login username made available to the scenarios" 1,
    { Parameter.option "password" "Login password" 2 with
      variable_ := some "TESTFORGE_PASSWORD"
      isSecret := true
      partner := some "username" },
    Parameter.option "run_id" "Base run id (a UUID by default)" 3,
    directoriesParameter "Directory to write snapshots and spec files into (repeatable)" 4,
    Parameter.flag "no_repair" "Skip live selector repair" 5,
    strategyParameter 6,
    languageParameter 7]
    (Values.invocation fun vs =>
      .generate vs.request (vs.texts "output_dirs") (!vs.isSet "no_repair") vs.specChoice)

/-- Makes spec files. -/
def compileCommand : Command Invocation :=
  .task "compile" "Compile a scenario file into spec files" [
    inputParameter,
    directoriesParameter "Directory to write spec files into (repeatable)" 0,
    strategyParameter 1,
    languageParameter 2]
    (Values.invocation fun vs => .compile (vs.text "input") (vs.texts "output_dirs") vs.specChoice)

/-- Repairs scenarios. -/
def repairCommand : Command Invocation :=
  .task "repair" "Repair the selectors of a scenario file against a live page" [
    inputParameter,
    urlParameter 0,
    { Parameter.option "output" "Where to write the repaired scenarios (JSON)" 1 with
      short := some 'o'
      refusesEmpty := true }]
    (Values.invocation fun vs => .repair (vs.text "input") (vs.text "url") (vs.text? "output"))

/-- Shows the settings, or writes a file with them. -/
def settingsCommand : Command Invocation :=
  .group "config" "Inspect or create the configuration file" [] [
    .task "show" "Show the effective configuration" [] (Values.invocation fun _ => .showSettings),
    .task "init" "Write a default configuration file"
      [Parameter.flag "force" "Overwrite an existing file" 0]
      (Values.invocation fun vs => .initSettings (vs.isSet "force"))]

/-- The program. -/
def program : Command Invocation :=
  .group programName "CLI for the testforge objective-to-Playwright compiler" [] [
    generateCommand,
    compileCommand,
    repairCommand,
    settingsCommand,
    .task "version" "Show version information" [] (Values.invocation fun _ => .version)]

/-- The variables of the environment that stand in for parameters. -/
def parameterVariables : List String := ["TESTFORGE_CONFIG", "TESTFORGE_PASSWORD"]

/-- Understands a command line. -/
def parse (env : String → Option String) (words : List String) : Except Stop Invocation :=
  (read ⟨sharedParameters, env, edition⟩ [programName] program .start words).map fun s =>
    s.build s.values

end Scenarist.Command
