import Scenarist.Json.Printer

/-!
# Templates

The arguments of a tool are a template: a JSON value whose strings may hold tokens for the
target and the data of a step. A token is cut out of the template before anything is put in,
so that what is put in is never taken for a token.
-/

namespace Scenarist.Template

/-- A token. -/
inductive Token where
  | target
  | data
  /-- The target as a string literal. -/
  | targetLiteral
  /-- The data as a string literal. -/
  | dataLiteral
deriving DecidableEq, Repr

/-- How a token is written. -/
def Token.written : Token → List Char
  | .target => "\x7btarget\x7d".toList
  | .data => "\x7bdata\x7d".toList
  | .targetLiteral => "\x7btarget_json\x7d".toList
  | .dataLiteral => "\x7bdata_json\x7d".toList

/-- A piece of a string of a template. -/
inductive Piece where
  | plain (c : Char)
  | token (t : Token)
deriving DecidableEq, Repr

/-- The token at the start of a text, and the rest. -/
def tokenAt? (cs : List Char) : Option (Token × List Char) :=
  [Token.targetLiteral, .dataLiteral, .target, .data].findSome? fun t =>
    (t.written.isPrefixOf? cs).map (t, ·)

/-- Cuts a text of at most `fuel` characters into tokens and the characters between them, from
left to right. -/
def piecesFrom : Nat → List Char → List Piece
  | 0, _ => []
  | _ + 1, [] => []
  | fuel + 1, c :: cs =>
    match tokenAt? (c :: cs) with
    | some (t, rest) => .token t :: piecesFrom fuel rest
    | none => .plain c :: piecesFrom fuel cs

/-- The pieces of a string of a template. -/
def pieces (s : String) : List Piece := piecesFrom s.toList.length s.toList

/-- What a token stands for. -/
def Token.value (target : String) (data : Option String) : Token → List Char
  | .target => target.toList
  | .data => (data.getD "").toList
  | .targetLiteral => Json.literal target
  | .dataLiteral => Json.literal (data.getD "")

/-- What a piece stands for. -/
def Piece.value (target : String) (data : Option String) : Piece → List Char
  | .plain c => [c]
  | .token t => t.value target data

/-- A string of a template with its tokens filled in. -/
def fill (target : String) (data : Option String) (s : String) : String :=
  String.ofList ((pieces s).flatMap (Piece.value target data))

/-- The string that stands for a list with the data in it. -/
def valuesMark : String := "\x7bvalues\x7d"

mutual

/-- A template with its tokens filled in. -/
def render (target : String) (data : Option String) : Json → Json
  | .string s =>
    if s = valuesMark then .array (data.toList.map .string) else .string (fill target data s)
  | .array items => .array (renderItems target data items)
  | .object members => .object (renderMembers target data members)
  | v => v

def renderItems (target : String) (data : Option String) : List Json → List Json
  | [] => []
  | v :: rest => render target data v :: renderItems target data rest

def renderMembers (target : String) (data : Option String) :
    List (String × Json) → List (String × Json)
  | [] => []
  | (k, v) :: rest => (k, render target data v) :: renderMembers target data rest

end

end Scenarist.Template
