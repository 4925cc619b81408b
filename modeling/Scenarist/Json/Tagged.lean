import Scenarist.Json.Record

/-!
# Tagged values

A value of one of several kinds, with its kind under a reserved member next to the fields of the
kind. The kind is read first, wherever it stands, and the other members are set aside until then.
An array of such a value starts with the kind.
-/

namespace Scenarist.Json.Tagged

variable {τ α : Type}

/-- A kind by its name; `other` decides about unknown names. -/
def readKind (kinds : List (String × τ)) (other : Option τ) (d : Document) : Reading τ :=
  match d with
  | .string (some s) =>
    match (kinds.lookup s).or other with
    | some k => .ok k
    | none => issue (.unknownVariant s (kinds.map Prod.fst))
  | d => d.unexpected "variant identifier"

/-- Splits the kind off the members, checking all others for a value. -/
def split (tag : String) (readTag : Document → Reading τ) (kind : Option τ) :
    List (Option String × Document) → Reading (Option τ × List (Option String × Document))
  | [] => .ok (kind, [])
  | (some k, d) :: rest =>
    if k = tag then
      if kind.isSome then issue (.duplicateField tag)
      else do
        let t ← readTag d
        split tag readTag (some t) rest
    else do
      if d.toJson?.isNone then throw .malformed
      let (t, others) ← split tag readTag kind rest
      return (t, (some k, d) :: others)
  | (none, _) :: _ => .error .malformed

/-- Reads a tagged value: `readTag` reads the kind, and `fields` the rest as the kind asks. -/
def read (name tag : String) (readTag : Document → Reading τ) (fields : τ → Document → Reading α)
    (d : Document) : Reading α :=
  match d with
  | .object members closed => do
    let (kind, others) ← split tag readTag none members
    if !closed then throw .malformed
    match kind with
    | none => issue (.missingField tag)
    | some t => fields t (.object others true)
  | .array [] true => issue (.missingField tag)
  | .array (first :: rest) closed => do
    let t ← readTag first
    if !closed || rest.any (fun d => d.toJson?.isNone) then throw .malformed
    fields t (.array rest true)
  | .deep _ => .error .malformed
  | d => d.unexpected ("internally tagged enum " ++ name)

/-- The fields of a kind that has none: what an object holds does not count, but an array must be
empty. -/
def noFields (d : Document) : Reading Unit :=
  match d with
  | .array (v :: rest) _ => issue (.wrongLength (v :: rest).length "0 elements in sequence")
  | _ => .ok ()

end Scenarist.Json.Tagged
