import Scenarist.Json.Tagged

/-!
# Outcomes

The result of processing something that must not be lost: either a new value, or the one that was
there before, together with the reason why there is no new one. Either way there is a value to go
on with.
-/

namespace Scenarist

/-- A new value, or the one before and why it was kept. -/
inductive Outcome (α : Type) where
  | ok (value : α)
  | degraded (before : α) (reason : String)
deriving DecidableEq, Repr

namespace Outcome

variable {α β : Type}

/-- There is a new value. -/
def isOk : Outcome α → Bool
  | ok _ => true
  | degraded _ _ => false

/-- The value before was kept. -/
def isDegraded : Outcome α → Bool
  | ok _ => false
  | degraded _ _ => true

/-- Why the value before was kept. -/
def reason? : Outcome α → Option String
  | ok _ => none
  | degraded _ reason => some reason

/-- The value to go on with. -/
def value : Outcome α → α
  | ok value => value
  | degraded before _ => before

/-- Applies a function to the value, whichever it is. -/
def map (f : α → β) : Outcome α → Outcome β
  | ok value => ok (f value)
  | degraded before reason => degraded (f before) reason

/-- An outcome as a value, its kind under `status`. -/
def toJson (inner : α → Json) : Outcome α → Json
  | ok value => .object [("status", .string "ok"), ("value", inner value)]
  | degraded before reason =>
    .object [("status", .string "degraded"), ("original", inner before),
      ("reason", .string reason)]

/-! ### Reading -/

/-- The parts of an outcome while they are read. -/
structure Parts (α : Type) where
  value : Option α
  reason : String

/-- The fields of an outcome with a new value. -/
def okShape (inner : Json.Document → Json.Reading α) : Json.RecordShape (Parts α) where
  name := "variant Outcome::Ok"
  fields := [⟨["value"], .required, fun d p => (inner d).map fun v => { p with value := some v }⟩]
  blank := ⟨none, ""⟩

/-- The fields of an outcome with the value before. -/
def degradedShape (inner : Json.Document → Json.Reading α) : Json.RecordShape (Parts α) where
  name := "variant Outcome::Degraded"
  fields := [
    ⟨["original"], .required, fun d p => (inner d).map fun v => { p with value := some v }⟩,
    ⟨["reason"], .required, fun d p => d.asText.map fun t => { p with reason := t }⟩]
  blank := ⟨none, ""⟩

/-- Reads the fields of an outcome, `isOk` telling whether it has a new value. -/
def readFields (inner : Json.Document → Json.Reading α) (isOk : Bool) (d : Json.Document) :
    Json.Reading (Outcome α) := do
  let p ← if isOk then (okShape inner).read .buffer d else (degradedShape inner).read .buffer d
  match p.value with
  | some v => return if isOk then .ok v else .degraded v p.reason
  | none => throw .malformed

/-- Reads an outcome, its kind under `status`. -/
def read (inner : Json.Document → Json.Reading α) (d : Json.Document) :
    Json.Reading (Outcome α) :=
  Json.Tagged.read "Outcome" "status"
    (Json.Tagged.readKind [("ok", true), ("degraded", false)] none) (readFields inner) d

end Outcome

end Scenarist
