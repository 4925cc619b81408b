import Scenarist.Json.Record
import Scenarist.Text.Blank

/-!
# Actions

What a step does to the page. Eight actions are recognized; a name that is none of theirs is
kept as it is, so that reading an action never fails.
-/

namespace Scenarist

/-- What a step does. -/
inductive Action where
  | goto
  | fill
  | click
  | expect
  | wait
  | type
  | select
  | hover
  /-- A name that is none of the above, without blanks around it. -/
  | other (name : String)
deriving DecidableEq, Repr, Inhabited

/-- The text with ASCII letters in lower case. -/
def lowered (s : String) : String := String.ofList (s.toList.map Char.toLower)

namespace Action

/-- The actions that are recognized, in the order in which they are listed to the author of a
scenario. -/
def recognized : List Action := [goto, fill, click, expect, wait, type, select, hover]

/-- The name of an action. -/
def name : Action → String
  | goto => "goto"
  | fill => "fill"
  | click => "click"
  | expect => "expect"
  | wait => "wait"
  | type => "type"
  | select => "select"
  | hover => "hover"
  | other name => name

/-- The recognized action with exactly the given name. -/
def ofName? (s : String) : Option Action := recognized.find? fun a => a.name == s

/-- Reads the name of an action; blanks around it and the case of its letters do not count. -/
def parse (s : String) : Action :=
  match ofName? (lowered (trimmed s)) with
  | some a => a
  | none => other (trimmed s)

/-- The action is one of the eight. -/
def isRecognized : Action → Bool
  | other _ => false
  | _ => true

/-- The target of the action is an element of the page. -/
def targetsElement : Action → Bool
  | goto => false
  | other _ => false
  | _ => true

/-- An action is written as its name. -/
def toJson (a : Action) : Json := .string a.name

/-- An action is read from any text. -/
def read (d : Json.Document) : Json.Reading Action := d.asText.map parse

end Action

end Scenarist
