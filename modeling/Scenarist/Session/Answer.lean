import Scenarist.Reply.Extract
import Scenarist.Json.Record

/-!
# Structured answers

A tool may answer with an object that says whether it succeeded, which selector it would use,
and what went wrong. A text that starts with a brace is such an object as a whole or not at
all; in other texts the first object counts, if it says anything about success or a selector.
-/

namespace Scenarist

/-- A structured answer of a tool. -/
structure Answer where
  success : Option Bool
  selector : Option String
  error : Option String
deriving DecidableEq, Repr

namespace Answer

/-- The fields of an answer; the selector goes by several names. -/
def shape : Json.RecordShape Answer where
  name := "StructuredReply"
  fields := [
    ⟨["success"], .optional, fun d a =>
      (d.asOption (·.asBool)).map fun b => { a with success := b }⟩,
    ⟨["improvedSelector", "improved_selector", "locator", "selector"], .optional, fun d a =>
      (d.asOption (·.asText)).map fun s => { a with selector := s }⟩,
    ⟨["error"], .optional, fun d a => (d.asOption (·.asText)).map fun s => { a with error := s }⟩]
  blank := ⟨none, none, none⟩

/-- The answer that a text is. -/
def ofObject? (cs : List Char) : Option Answer :=
  match Json.readText (shape.read .text) (String.ofList cs) with
  | .ok a => some a
  | .error _ => none

/-- The answer says something about success or a selector. -/
def isTelling (a : Answer) : Bool := a.success.isSome || a.selector.isSome

/-- The answer in a text. -/
def parse? (s : String) : Option Answer :=
  let cs := Text.trim s.toList
  match cs with
  | '\x7b' :: _ => ofObject? cs
  | _ =>
    match (Reply.balancedObject? cs).bind ofObject? with
    | some a => if a.isTelling then some a else none
    | none => none

end Answer

end Scenarist
