import Scenarist.Json.Record

/-!
# Options of spec files

How targets become locators, and the language of the files.
-/

namespace Scenarist

/-- How the targets of elements become locators. -/
inductive Strategy where
  /-- A role expression becomes a locator by role. -/
  | roleFirst
  /-- Every target that is not a text becomes a selector. -/
  | css
deriving DecidableEq, Repr, Inhabited

namespace Strategy

/-- The name of a strategy. -/
def name : Strategy → String
  | roleFirst => "role-first"
  | css => "css"

/-- Reads a strategy by name. -/
def read (m : Json.Medium) (d : Json.Document) : Json.Reading Strategy :=
  d.asName m ([roleFirst, css].map fun s => (s.name, s))

end Strategy

/-- The language of a spec file. -/
inductive Language where
  | typeScript
  | javaScript
deriving DecidableEq, Repr, Inhabited

namespace Language

/-- The name of a language. -/
def name : Language → String
  | typeScript => "typescript"
  | javaScript => "javascript"

/-- The ending of the names of its files. -/
def extension : Language → String
  | typeScript => "ts"
  | javaScript => "js"

/-- Reads a language by name. -/
def read (m : Json.Medium) (d : Json.Document) : Json.Reading Language :=
  d.asName m ([typeScript, javaScript].map fun l => (l.name, l))

end Language

/-- The options of spec files. -/
structure SpecOptions where
  strategy : Strategy
  language : Language
deriving DecidableEq, Repr, Inhabited

namespace SpecOptions

/-- Role locators in TypeScript. -/
def default : SpecOptions := ⟨.roleFirst, .typeScript⟩

/-- Plain selectors in TypeScript. -/
def plainSelectors : SpecOptions := ⟨.css, .typeScript⟩

/-- Options as a value. -/
def toJson (o : SpecOptions) : Json :=
  .object [
    ("selector_strategy", .string o.strategy.name),
    ("language", .string o.language.name)]

/-- The fields of options, left out or not as `presence` says. -/
def shape (name : String) (presence : Json.Presence) (m : Json.Medium) :
    Json.RecordShape SpecOptions where
  name := name
  fields := [
    ⟨["selector_strategy"], presence, fun d o =>
      (Strategy.read m d).map fun s => { o with strategy := s }⟩,
    ⟨["language"], presence, fun d o =>
      (Language.read m d).map fun l => { o with language := l }⟩]
  blank := default

/-- Reads options, both of which must be there. -/
def read (m : Json.Medium) (d : Json.Document) : Json.Reading SpecOptions :=
  (shape "CompileOptions" .required m).read m d

end SpecOptions

end Scenarist
