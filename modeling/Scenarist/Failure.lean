import Scenarist.Decimal.Notation

/-!
# Failures

The causes for which a run, a call of the backend or the reading of settings can fail, and
their wording.
-/

namespace Scenarist

/-- Why something failed. -/
inductive Failure where
  | generation (reason : String)
  | textService (status : Nat) (body : String)
  /-- There is no connection, or it was lost. -/
  | connection (reason : String)
  | protocol (reason : String)
  /-- The server answered with an error. -/
  | remote (code : Int) (reason : String)
  | timeout (waitingFor : String)
  | invalidSettings (reason : String)
  | io (reason : String)
  | json (reason : String)
  | tomlRead (reason : String)
  | tomlWrite (reason : String)
  | http (reason : String)
deriving DecidableEq, Repr

/-- The wording of a failure. -/
def Failure.message : Failure → String
  | .generation reason => "Generation failed: " ++ reason
  | .textService status body =>
    "Text service returned " ++ Decimal.natText status ++ ": " ++ body
  | .connection reason => "Automation backend unavailable: " ++ reason
  | .protocol reason => "MCP error: " ++ reason
  | .remote code reason =>
    "MCP server returned error " ++ Decimal.intText code ++ ": " ++ reason
  | .timeout waitingFor => "Timeout waiting for: " ++ waitingFor
  | .invalidSettings reason => "Invalid configuration: " ++ reason
  | .io reason => "IO error: " ++ reason
  | .json reason => "JSON error: " ++ reason
  | .tomlRead reason => "TOML parse error: " ++ reason
  | .tomlWrite reason => "TOML write error: " ++ reason
  | .http reason => "HTTP error: " ++ reason

end Scenarist
