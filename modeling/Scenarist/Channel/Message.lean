import Scenarist.Json.Printer
import Scenarist.Json.Tagged
import Scenarist.Session.Backend
import Scenarist.Text.Blank

/-!
# Messages

A client and a server exchange messages, each a JSON object on a line of its own. A request has an
id and a method, a notification only a method, and a response only an id, with a result or an
error. What a tool answers is the result of a response.
-/

namespace Scenarist.Channel

/-- The version of the protocol that is spoken. -/
def protocolVersion : String := "2024-11-05"

/-! ### Outgoing messages -/

/-- A message with the fields that every message has. -/
def envelope (fields : List (String × Json)) : Json :=
  Json.canonical (.object (("jsonrpc", .string "2.0") :: fields))

/-- A request. -/
def request (id : Nat) (method : String) (params : Json) : Json :=
  envelope [("id", .nat id), ("method", .string method), ("params", params)]

/-- A notification. -/
def notification (method : String) : Json := envelope [("method", .string method)]

/-- The answer to a request of the server: only a ping is served. -/
def answer (id : Json) (method : String) : Json :=
  if method = "ping" then envelope [("id", id), ("result", .object [])]
  else
    envelope [("id", id), ("error", .object [
      ("code", .number (.negative 32601)),
      ("message", .string ("Method not found: " ++ method))])]

/-- The parameters with which a client introduces itself. -/
def introduction : Json :=
  .object [
    ("protocolVersion", .string protocolVersion),
    ("capabilities", .object []),
    ("clientInfo", .object [("name", .string "testforge"), ("version", .string "0.1.0")])]

/-- The parameters of the call of a tool. -/
def callParams (tool : String) (arguments : Json) : Json :=
  .object [("name", .string tool), ("arguments", arguments)]

/-- The line of a message. -/
def line (message : Json) : List Char := message.compact

/-! ### What is shown of outgoing messages -/

/-- What stands for a value that is not shown. -/
def redaction : Json := .string "<redacted>"

/-- An object whose values are not shown. -/
def redactedObject : Json → Json
  | .object members => .object (members.map fun (k, _) => (k, redaction))
  | v => v

/-- Changes the value of a member, if the value is an object that has it. -/
def atMember (key : String) (f : Json → Json) : Json → Json
  | .object members => .object (members.map fun (k, v) => if k = key then (k, f v) else (k, v))
  | v => v

/-- A message as it is shown: the values of the arguments of a tool are not. -/
def redacted (message : Json) : Json :=
  atMember "params" (atMember "arguments" redactedObject) message

/-! ### Incoming messages -/

/-- An error that the server reports. -/
structure RemoteError where
  code : Int
  message : String
deriving DecidableEq, Repr

namespace RemoteError

/-- The fields of an error. -/
def shape : Json.RecordShape RemoteError where
  name := "RpcError"
  fields := [
    ⟨["code"], .required, fun d e => d.asInt.map fun n => { e with code := n }⟩,
    ⟨["message"], .required, fun d e => d.asText.map fun s => { e with message := s }⟩]
  blank := ⟨0, ""⟩

end RemoteError

/-- A message of the server. -/
structure Message where
  id : Option Json
  method : Option String
  result : Option Json
  error : Option RemoteError
deriving Repr

namespace Message

/-- The fields of a message, all of which may be left out. -/
def shape : Json.RecordShape Message where
  name := "Message"
  fields := [
    ⟨["id"], .optional, fun d m => (d.asOption (·.asJson)).map fun v => { m with id := v }⟩,
    ⟨["method"], .optional, fun d m => (d.asOption (·.asText)).map fun s => { m with method := s }⟩,
    ⟨["result"], .optional, fun d m => (d.asOption (·.asJson)).map fun v => { m with result := v }⟩,
    ⟨["error"], .optional, fun d m =>
      (d.asOption (RemoteError.shape.read .text)).map fun e => { m with error := e }⟩]
  blank := ⟨none, none, none, none⟩

/-- The message on a line, if there is one. -/
def ofLine? (cs : List Char) : Option Message :=
  match Json.readText (shape.read .text) (String.ofList (Text.trim cs)) with
  | .ok m => some m
  | .error _ => none

/-- What a response says. -/
def outcome (m : Message) : Except Failure Json :=
  match m.error with
  | some e => .error (.remote e.code e.message)
  | none => .ok (m.result.getD .null)

end Message

/-! ### The results of tools -/

/-- A part of the result of a tool: its text, or nothing if it is no text. -/
structure Part where
  text : Option String
deriving DecidableEq, Repr

namespace Part

/-- The fields of a text. -/
def textShape : Json.RecordShape Part where
  name := "variant Content::Text"
  fields := [⟨["text"], .required, fun d _ => d.asText.map fun s => ⟨some s⟩⟩]
  blank := ⟨none⟩

/-- Reads a part, its kind under `type`. -/
def read (d : Json.Document) : Json.Reading Part :=
  Json.Tagged.read "Content" "type" (Json.Tagged.readKind [("text", true)] (some false))
    (fun isText d =>
      if isText then textShape.read .buffer d
      else (Json.Tagged.noFields d).map fun _ => ⟨none⟩) d

end Part

/-- The result of a tool. -/
structure ToolResult where
  content : List Part
  isError : Bool
deriving DecidableEq, Repr

namespace ToolResult

/-- The fields of a result. -/
def shape : Json.RecordShape ToolResult where
  name := "CallToolResult"
  fields := [
    ⟨["content"], .optional, fun d r => (d.asList Part.read).map fun l => { r with content := l }⟩,
    ⟨["isError"], .optional, fun d r => d.asBool.map fun b => { r with isError := b }⟩]
  blank := ⟨[], false⟩

/-- The answer of the tool: its texts, each on a line of its own. -/
def reply (r : ToolResult) : ToolReply :=
  ⟨r.isError, "\n".intercalate (r.content.filterMap (·.text))⟩

/-- The answer in the result of a response. -/
def replyOf (result : Json) : Except Failure ToolReply :=
  match shape.read .tree (.ofJson result) with
  | .ok r => .ok r.reply
  | .error (.mismatch i) => .error (.protocol ("invalid tools/call result: " ++ i.message))
  | .error .malformed => .error (.protocol "invalid tools/call result")

end ToolResult

end Scenarist.Channel
