import Scenarist.Json.Record

/-!
# Requests

What a run is asked for: an objective in plain language, the page to start from, and perhaps
a login and an id for the run.
-/

namespace Scenarist

/-- A login for the pages under test. -/
structure Credentials where
  username : String
  password : Option String
deriving DecidableEq, Repr

namespace Credentials

/-- Credentials for display: the password is never shown. -/
def describe (c : Credentials) : String :=
  "Credentials \x7b username: " ++ Text.escaped c.username ++ ", password: " ++
    (if c.password.isSome then "Some(\"<redacted>\")" else "None") ++ " \x7d"

/-- Credentials as a value. -/
def toJson (c : Credentials) : Json :=
  .ofFields [("username", some (.string c.username)), ("password", c.password.map .string)]

/-- The fields of credentials. -/
def shape : Json.RecordShape Credentials where
  name := "Credentials"
  fields := [
    ⟨["username"], .required, fun d c => d.asText.map fun t => { c with username := t }⟩,
    ⟨["password"], .optional, fun d c =>
      (d.asOption (·.asText)).map fun t => { c with password := t }⟩]
  blank := ⟨"", none⟩

/-- Reads credentials. -/
def read (m : Json.Medium) (d : Json.Document) : Json.Reading Credentials := shape.read m d

end Credentials

/-- What a run is asked for. -/
structure Request where
  objective : String
  targetUrl : String
  credentials : Option Credentials
  runId : Option String
deriving DecidableEq, Repr

namespace Request

/-- A request as a value. -/
def toJson (r : Request) : Json :=
  .ofFields [
    ("objective", some (.string r.objective)),
    ("targetUrl", some (.string r.targetUrl)),
    ("credentials", r.credentials.map Credentials.toJson),
    ("runId", r.runId.map .string)]

/-- The fields of a request. -/
def shape (m : Json.Medium) : Json.RecordShape Request where
  name := "GenerationRequest"
  fields := [
    ⟨["objective"], .required, fun d r => d.asText.map fun t => { r with objective := t }⟩,
    ⟨["targetUrl"], .required, fun d r => d.asText.map fun t => { r with targetUrl := t }⟩,
    ⟨["credentials"], .optional, fun d r =>
      (d.asOption (Credentials.read m)).map fun c => { r with credentials := c }⟩,
    ⟨["runId"], .optional, fun d r =>
      (d.asOption (·.asText)).map fun t => { r with runId := t }⟩]
  blank := ⟨"", "", none, none⟩

/-- Reads a request. -/
def read (m : Json.Medium) (d : Json.Document) : Json.Reading Request := (shape m).read m d

end Request

end Scenarist
