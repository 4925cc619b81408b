import Scenarist.Settings.Tools
import Scenarist.Spec.Options
import Scenarist.Text.Path

/-!
# Settings

Everything that can be set: the text service, the number of scenarios asked for, the automation
server, the repair of selectors and the form of spec files. Every setting has a default, and
whatever is left out keeps it. Variables of the environment override some of them.
-/

namespace Scenarist

/-- The text service. -/
structure GeminiSettings where
  /-- The address of the service, or the full address of a method. -/
  endpoint : String
  model : String
  apiKey : Option String
  timeoutSecs : Nat
  temperature : Option Single
deriving DecidableEq, Repr

namespace GeminiSettings

/-- The temperature 0.2. -/
def defaultTemperature : Single := .ofDecimal false 2 (-1)

/-- The settings where nothing is said. -/
def default : GeminiSettings :=
  ⟨"https://generativelanguage.googleapis.com", "gemini-2.0-flash", none, 120,
    some defaultTemperature⟩

/-- The settings as a value. -/
def toJson (s : GeminiSettings) : Json :=
  .ofFields [
    ("endpoint", some (.string s.endpoint)),
    ("model", some (.string s.model)),
    ("api_key", s.apiKey.map .string),
    ("timeout_secs", some (.nat s.timeoutSecs)),
    ("temperature", s.temperature.map fun x => .number (.single x))]

/-- The fields of the settings. -/
def shape : Json.RecordShape GeminiSettings where
  name := "GeminiConfig"
  fields := [
    ⟨["endpoint"], .optional, fun d s => d.asText.map fun t => { s with endpoint := t }⟩,
    ⟨["model"], .optional, fun d s => d.asText.map fun t => { s with model := t }⟩,
    ⟨["api_key"], .optional, fun d s =>
      (d.asOption (·.asText)).map fun t => { s with apiKey := t }⟩,
    ⟨["timeout_secs"], .optional, fun d s =>
      (d.asNat "u64").map fun n => { s with timeoutSecs := n }⟩,
    ⟨["temperature"], .optional, fun d s =>
      (d.asOption (·.asSingle)).map fun x => { s with temperature := x }⟩]
  blank := default

/-- Reads the settings. -/
def read (m : Json.Medium) (d : Json.Document) : Json.Reading GeminiSettings := shape.read m d

end GeminiSettings

/-- How many scenarios are asked for. -/
structure GeneratorSettings where
  minScenarios : Nat
deriving DecidableEq, Repr

namespace GeneratorSettings

/-- Five scenarios. -/
def default : GeneratorSettings := ⟨5⟩

/-- The settings as a value. -/
def toJson (s : GeneratorSettings) : Json := .object [("min_scenarios", .nat s.minScenarios)]

/-- The fields of the settings. -/
def shape : Json.RecordShape GeneratorSettings where
  name := "GeneratorConfig"
  fields := [⟨["min_scenarios"], .optional, fun d _ => (d.asNat "usize").map fun n => ⟨n⟩⟩]
  blank := default

/-- Reads the settings. -/
def read (m : Json.Medium) (d : Json.Document) : Json.Reading GeneratorSettings :=
  shape.read m d

end GeneratorSettings

/-- The automation server. -/
structure AutomationSettings where
  command : String
  args : List String
  callTimeoutMs : Nat
  connectTimeoutMs : Nat
  tools : Toolbox
deriving Repr

namespace AutomationSettings

/-- The settings where nothing is said. -/
def default : AutomationSettings :=
  ⟨"npx", ["@playwright/mcp@latest", "--headless", "--caps=testing"], 30000, 60000, .scripted⟩

/-- The settings as a value. -/
def toJson (s : AutomationSettings) : Json :=
  .object [
    ("command", .string s.command),
    ("args", .array (s.args.map .string)),
    ("call_timeout_ms", .nat s.callTimeoutMs),
    ("connect_timeout_ms", .nat s.connectTimeoutMs),
    ("tools", s.tools.toJson)]

/-- The fields of the settings. -/
def shape (m : Json.Medium) : Json.RecordShape AutomationSettings where
  name := "AutomationConfig"
  fields := [
    ⟨["command"], .optional, fun d s => d.asText.map fun t => { s with command := t }⟩,
    ⟨["args"], .optional, fun d s => (d.asList (·.asText)).map fun l => { s with args := l }⟩,
    ⟨["call_timeout_ms"], .optional, fun d s =>
      (d.asNat "u64").map fun n => { s with callTimeoutMs := n }⟩,
    ⟨["connect_timeout_ms"], .optional, fun d s =>
      (d.asNat "u64").map fun n => { s with connectTimeoutMs := n }⟩,
    ⟨["tools"], .optional, fun d s => (Toolbox.read m d).map fun t => { s with tools := t }⟩]
  blank := default

/-- Reads the settings. -/
def read (m : Json.Medium) (d : Json.Document) : Json.Reading AutomationSettings :=
  (shape m).read m d

end AutomationSettings

/-- The repair of selectors. -/
structure RepairSettings where
  enabled : Bool
  stepDelayMs : Nat
  /-- The limit of a whole repair; none if zero. -/
  overallTimeoutSecs : Nat
deriving DecidableEq, Repr

namespace RepairSettings

/-- The settings where nothing is said. -/
def default : RepairSettings := ⟨true, 1000, 600⟩

/-- The limit of a whole repair in milliseconds. -/
def limitMs? (s : RepairSettings) : Option Nat :=
  if s.overallTimeoutSecs = 0 then none else some (s.overallTimeoutSecs * 1000)

/-- The settings as a value. -/
def toJson (s : RepairSettings) : Json :=
  .object [
    ("enabled", .bool s.enabled),
    ("step_delay_ms", .nat s.stepDelayMs),
    ("overall_timeout_secs", .nat s.overallTimeoutSecs)]

/-- The fields of the settings. -/
def shape : Json.RecordShape RepairSettings where
  name := "RepairConfig"
  fields := [
    ⟨["enabled"], .optional, fun d s => d.asBool.map fun b => { s with enabled := b }⟩,
    ⟨["step_delay_ms"], .optional, fun d s =>
      (d.asNat "u64").map fun n => { s with stepDelayMs := n }⟩,
    ⟨["overall_timeout_secs"], .optional, fun d s =>
      (d.asNat "u64").map fun n => { s with overallTimeoutSecs := n }⟩]
  blank := default

/-- Reads the settings. -/
def read (m : Json.Medium) (d : Json.Document) : Json.Reading RepairSettings := shape.read m d

end RepairSettings

/-- Everything that can be set. -/
structure Settings where
  gemini : GeminiSettings
  generator : GeneratorSettings
  automation : AutomationSettings
  repair : RepairSettings
  spec : SpecOptions
deriving Repr

namespace Settings

/-- The settings where nothing is said. -/
def default : Settings := ⟨.default, .default, .default, .default, .default⟩

/-- The settings as a value. -/
def toJson (s : Settings) : Json :=
  .object [
    ("gemini", s.gemini.toJson),
    ("generator", s.generator.toJson),
    ("automation", s.automation.toJson),
    ("repair", s.repair.toJson),
    ("codegen", s.spec.toJson)]

/-- The fields of the settings. -/
def shape (m : Json.Medium) : Json.RecordShape Settings where
  name := "ForgeConfig"
  fields := [
    ⟨["gemini"], .optional, fun d s =>
      (GeminiSettings.read m d).map fun x => { s with gemini := x }⟩,
    ⟨["generator"], .optional, fun d s =>
      (GeneratorSettings.read m d).map fun x => { s with generator := x }⟩,
    ⟨["automation"], .optional, fun d s =>
      (AutomationSettings.read m d).map fun x => { s with automation := x }⟩,
    ⟨["repair"], .optional, fun d s =>
      (RepairSettings.read m d).map fun x => { s with repair := x }⟩,
    ⟨["codegen"], .optional, fun d s =>
      ((SpecOptions.shape "CodegenConfig" .optional m).read m d).map fun x => { s with spec := x }⟩]
  blank := default

/-- Reads the settings. -/
def read (m : Json.Medium) (d : Json.Document) : Json.Reading Settings := (shape m).read m d

end Settings

/-- The variables of the environment that matter to the settings. -/
structure Environment where
  apiKey : Option String
  model : Option String
  command : Option String
  home : Option String
deriving DecidableEq, Repr, Inhabited

namespace Environment

/-- The settings with the overrides of the environment: the key where none is set, the model
always, and the command if it has a word, the further words being its arguments. -/
def override (e : Environment) (s : Settings) : Settings :=
  let gemini := { s.gemini with
    apiKey := s.gemini.apiKey.or e.apiKey
    model := e.model.getD s.gemini.model }
  let automation := match e.command.map fun c => (Text.words c.toList).map String.ofList with
    | some (program :: args) => { s.automation with command := program, args := args }
    | _ => s.automation
  { s with gemini := gemini, automation := automation }

/-- Where the settings are kept if nothing else is said. -/
def settingsPath (e : Environment) : String :=
  Path.join (Path.join (e.home.getD ".") ".testforge") "config.toml"

end Environment

end Scenarist
