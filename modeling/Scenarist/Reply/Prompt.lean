import Scenarist.Run.Request
import Scenarist.Scenario.Action

/-!
# The prompt

What the text service is asked: to propose scenarios for an objective as one JSON object of a
given form.
-/

namespace Scenarist

/-- The lines with the login, if there is one. -/
def Credentials.promptLines (c : Credentials) : String :=
  "Login username: " ++ c.username ++ "\n" ++
    match c.password with
    | some p => "Login password: " ++ p ++ "\n"
    | none => ""

/-- The form of the answer, with the address of the application in its example. -/
def answerForm (url : String) : String :=
  "Respond with a single JSON object and nothing else:\n" ++
  "\x7b\n" ++
  "  \"scenarios\": [\n" ++
  "    \x7b\n" ++
  "      \"id\": \"scenario_1\",\n" ++
  "      \"name\": \"Short descriptive name\",\n" ++
  "      \"tags\": [\"smoke\"],\n" ++
  "      \"steps\": [\n" ++
  "        \x7b \"action\": \"goto\", \"target\": \"" ++ url ++
    "\", \"description\": \"Open the application\" \x7d,\n" ++
  "        \x7b \"action\": \"fill\", \"target\": \"#username\", \"data\": \"value\", " ++
    "\"description\": \"Enter the username\" \x7d\n" ++
  "      ]\n" ++
  "    \x7d\n" ++
  "  ]\n" ++
  "\x7d\n"

/-- The rules for steps. -/
def answerRules : String :=
  "Rules:\n" ++
  "- \"action\" must be one of: " ++
    ", ".intercalate (Action.recognized.map Action.name) ++ ".\n" ++
  "- The first step of every scenario is a \"goto\" to the application URL.\n" ++
  "- When you do not know the exact selector, use an identifier-style target such as " ++
    "\"#login\".\n" ++
  "- \"expect\" steps put the assertion in \"data\", e.g. \"visible\" or \"text 'Welcome'\".\n" ++
  "- Use \"body\" as the target of a \"wait\" step that only waits for the page to settle.\n"

/-- The prompt for an objective on an application, asking for at least `count` scenarios. -/
def prompt (objective url : String) (credentials : Option Credentials) (count : Nat) : String :=
  "You are a senior QA engineer writing end-to-end browser tests.\n\n" ++
  "Test objective: " ++ trimmed objective ++ "\n" ++
  "Application URL: " ++ trimmed url ++ "\n" ++
  (credentials.map Credentials.promptLines).getD "" ++
  "\nPropose at least " ++ Decimal.natText count ++
    " distinct test scenarios (never fewer than 2) covering the\n" ++
  "objective, including negative and edge cases.\n\n" ++
  answerForm (trimmed url) ++ "\n" ++ answerRules

end Scenarist
