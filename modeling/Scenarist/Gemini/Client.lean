import Scenarist.Failure
import Scenarist.Json.Document
import Scenarist.Json.Printer
import Scenarist.Settings.Basic
import Scenarist.Text.Escaped
import Scenarist.Text.Search
import Scenarist.Url.Address

/-!
# The text service

Gemini is asked over the web: one request carries the prompt, and the text of the answer is in the
parts of its first candidate. The key of the service is part of the address.
-/

namespace Scenarist.Gemini

/-- A client of the service. -/
structure Client where
  address : Url.Address
  model : String
  temperature : Option Single
deriving DecidableEq, Repr

/-- What a client sends. -/
structure Query where
  method : String
  url : String
  contentType : String
  body : Json
deriving Repr

/-- How sending a query ends: it does not arrive or is not answered, or it is answered with a
status and a body. -/
inductive Exchange where
  | failed
  | answered (status : Nat) (body : List UInt8)
deriving DecidableEq, Repr

/-- The address of the method that generates content, without a key. An endpoint that names the
method stands for itself. -/
def methodAddress (endpoint model : String) : String :=
  if Text.occursIn ":generateContent".toList endpoint.toList then endpoint
  else
    String.ofList (endpoint.toList.reverse.dropWhile (· = '/')).reverse ++ "/v1beta/models/" ++
      model ++ ":generateContent"

/-- The address of the service with the key, unless it has one. -/
def resolveEndpoint (endpoint model apiKey : String) : Except Failure Url.Address :=
  let text := methodAddress endpoint model
  match Url.parse text with
  | .error e => .error (.invalidSettings ("invalid endpoint " ++ text ++ ": " ++ e.message))
  | .ok a => .ok (if a.hasPair "key" then a else a.appendPair "key" apiKey)

namespace Client

/-- A client for the given settings. -/
def ofSettings (s : GeminiSettings) : Except Failure Client :=
  match s.apiKey with
  | none => .error (.invalidSettings "gemini backend requires api_key (or GEMINI_API_KEY)")
  | some key => (resolveEndpoint s.endpoint s.model key).map fun a => ⟨a, s.model, s.temperature⟩

/-- A client for display: the address, which holds the key, is not shown. -/
def describe (c : Client) : String :=
  "GeminiClient \x7b model: " ++ Text.escaped c.model ++ " \x7d"

/-- The body of a query. -/
def payload (c : Client) (prompt : String) : Json :=
  .ofFields [
    ("contents", some (.array [.object [
      ("role", .string "user"),
      ("parts", .array [.object [("text", .string prompt)]])]])),
    ("generationConfig", c.temperature.map fun x =>
      Json.canonical (.object [("temperature", .number (.single x))]))]

/-- The query for a prompt. -/
def query (c : Client) (prompt : String) : Query :=
  ⟨"POST", String.ofList c.address.anonymous.requestText, "application/json", c.payload prompt⟩

end Client

/-- The text parts of the first candidate, one after another. -/
def extractText (body : Json) : String :=
  let parts := do
    let candidates ← (← body.member? "candidates").items?
    let content ← (← candidates.head?).member? "content"
    (← content.member? "parts").items?
  String.join ((parts.getD []).filterMap fun p => (p.member? "text").bind Json.string?)

/-- The number of characters that are kept of the body of an error. -/
def bodyLimit : Nat := 320

/-- The text, cut off with an ellipsis if it is longer than the limit. -/
def truncated (limit : Nat) (cs : List Char) : List Char :=
  if limit < cs.length then cs.take limit ++ ['…'] else cs

/-- The failure to bring about an exchange, in the words `what`. -/
def sendFailure (a : Url.Address) (what : String) : Failure :=
  .generation ("gemini request failed: " ++ what ++ " for url (" ++
    String.ofList a.anonymous.text ++ ")")

/-- The text of an answer. -/
def readAnswer (status : Nat) (body : List UInt8) : Except Failure String :=
  if 200 ≤ status && status < 300 then
    match (Text.ofUtf8? body).bind fun cs => Json.parse? (String.ofList cs) with
    | some v => .ok (extractText v)
    | none => .error (.generation "invalid gemini response: error decoding response body")
  else .error (.textService status (String.ofList (truncated bodyLimit (Text.ofBytes body))))

/-- The address belongs to the web: only there can a query be sent. -/
def isOnWeb (a : Url.Address) : Bool := a.scheme = "http".toList || a.scheme = "https".toList

/-- Asks the service: the query is sent by `send`, unless the address leads elsewhere. -/
def complete {m : Type → Type} [Monad m] (send : Query → m Exchange) (c : Client)
    (prompt : String) : m (Except Failure String) := do
  if !isOnWeb c.address then return .error (sendFailure c.address "builder error")
  else
    match ← send (c.query prompt) with
    | .failed => return .error (sendFailure c.address "error sending request")
    | .answered status body => return readAnswer status body

end Scenarist.Gemini
