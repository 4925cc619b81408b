import Scenarist.Command.Help
import Scenarist.Command.Usage

/-!
# Reading a command line

The words of a command line are read from left to right. A word is the name of a command of the
group, an option by its long name or by one or more short ones, the value of the option before it,
or a value without a name; after a double dash every word is a value. An option is settled when
the next one begins, so that a mistake in its value is found only then. What was not said is taken
from the environment and then from the presets.
-/

namespace Scenarist.Command

variable {τ : Type}

/-- Why reading stops before the end: a description or the version was asked for, too little was
said, or something was not understood. -/
inductive Stop where
  | help (text : String)
  | version (text : String)
  | incomplete (text : String)
  | mistake (e : UsageError)
deriving DecidableEq, Repr

/-- A task that was chosen, and the values of all its parameters. -/
structure Selection (τ : Type) where
  build : Values → τ
  values : Values

/-- What a command line is read against. -/
structure Grammar where
  /-- The parameters of every command. -/
  shared : List Parameter
  /-- The environment. -/
  env : String → Option String
  /-- The version of the program. -/
  edition : String

/-- How far a command has been read. -/
structure Progress where
  values : Values
  /-- The parameter begun, and its value if it has come. -/
  pending : Option (Parameter × List String)
  /-- The number of values without a name. -/
  taken : Nat
  /-- A double dash has come. -/
  onlyValues : Bool

/-- The start. -/
def Progress.start : Progress := ⟨[], none, 0, false⟩

/-! ### Values -/

/-- A value that the parameter can have. -/
def checkValue (p : Parameter) (v : String) : Except UsageError Unit :=
  if p.choices.isEmpty then
    if p.refusesEmpty && v.isEmpty then .error (.missingValue p.label) else .ok ()
  else if p.choices.any (·.name == v) then .ok ()
  else if v.isEmpty then .error (.missingValue p.label)
  else .error (.invalidValue v p.label (p.choices.map (·.name)))

/-- The values with one more of a parameter. -/
def Values.add (vs : Values) (id : String) (origin : Origin) (new : List String) : Values :=
  vs.filter (·.id != id) ++ [⟨id, origin, vs.texts id ++ new⟩]

/-- Takes the values of a parameter; only some parameters can be given twice. -/
def take (p : Parameter) (origin : Origin) (new : List String) (vs : Values) :
    Except UsageError Values :=
  if origin = .commandLine && p.hasValue && new.isEmpty then .error (.missingValue p.label)
  else if p.kind != .repeated && vs.has p.id then .error (.repeated p.label)
  else do
    new.forM (checkValue p)
    return vs.add p.id origin new

/-- Settles the parameter begun. -/
def settle (s : Progress) : Except UsageError Progress :=
  match s.pending with
  | none => .ok s
  | some (p, new) => do
    let values ← take p .commandLine new s.values
    return { s with values := values, pending := none }

/-! ### Options -/

/-- The long name in a word, and the value attached to it. -/
def longOf? (word : List Char) : Option (List Char × Option String) :=
  match word with
  | '-' :: '-' :: c :: cs =>
    let rest := c :: cs
    let value := match rest.dropWhile (· != '=') with
      | [] => none
      | _ :: v => some (String.ofList v)
    some (rest.takeWhile (· != '='), value)
  | _ => none

/-- The short names in a word, and what may be a value attached to one of them. -/
def shortsOf? (word : List Char) : Option (List Char) :=
  match word with
  | '-' :: c :: cs => if c = '-' then none else some (c :: cs)
  | _ => none

/-- The value attached to a short name. -/
def attached? : List Char → Option String
  | [] => none
  | '=' :: cs => some (String.ofList cs)
  | cs => some (String.ofList cs)

/-- A mistake as a reason to stop. -/
def orStop {α : Type} (r : Except UsageError α) : Except Stop α :=
  match r with
  | .ok a => .ok a
  | .error e => .error (.mistake e)

/-- Begins an option with a value, or takes the value attached to it. -/
def beginOption (p : Parameter) (value : Option String) (s : Progress) : Except Stop Progress := do
  let s ← orStop (settle s)
  match value with
  | none => return { s with pending := some (p, []) }
  | some v => return { s with values := ← orStop (take p .commandLine [v] s.values) }

/-- What a flag that was given does. -/
def takeFlag (g : Grammar) (path : List String) (c : Command τ) (detailed : Bool) (p : Parameter)
    (s : Progress) : Except Stop Progress := do
  let s ← orStop (settle s)
  match p.kind with
  | .help => .error (.help (Help.text g.env detailed path c g.shared))
  | .version => .error (.version ("-".intercalate path ++ " " ++ g.edition ++ "\n"))
  | _ => return { s with values := ← orStop (take p .commandLine [] s.values) }

/-- Reads an option by its long name. -/
def readLong (g : Grammar) (path : List String) (c : Command τ) (name : List Char)
    (value : Option String) (s : Progress) : Except Stop Progress :=
  match (c.parameters g.shared).find? fun p => p.long == some (String.ofList name) with
  | none => .error (.mistake (.unknownArgument (String.ofList ('-' :: '-' :: name))))
  | some p =>
    if p.hasValue then beginOption p value s
    else
      match value with
      | some v => .error (.mistake (.needlessValue v p.label))
      | none => takeFlag g path c true p s

/-- Reads options by their short names. -/
def readShorts (g : Grammar) (path : List String) (c : Command τ) :
    List Char → Progress → Except Stop Progress
  | [], s => .ok s
  | x :: xs, s =>
    match (c.parameters g.shared).find? fun p => p.short == some x with
    | none => .error (.mistake (.unknownArgument (String.ofList ['-', x])))
    | some p =>
      if p.hasValue then beginOption p (attached? xs) s
      else do readShorts g path c xs (← takeFlag g path c false p s)

/-! ### Commands -/

/-- What is asked for with the names of commands after `help`. -/
def describe (g : Grammar) (path : List String) (c : Command τ) : List String → Stop
  | [] => .help (Help.text g.env true path c g.shared)
  | name :: rest =>
    match c.members.find? (·.name == name) with
    | some m => describe g (path ++ [name]) m rest
    | none => .mistake (.unknownCommand name)

/-- Takes the variables of the environment for the parameters that were not given. -/
def takeVariables (env : String → Option String) :
    List Parameter → Values → Except UsageError Values
  | [], vs => .ok vs
  | p :: ps, vs =>
    match p.variable_.bind env with
    | some v =>
      if vs.has p.id then takeVariables env ps vs
      else do takeVariables env ps (← take p .environment [v] vs)
    | none => takeVariables env ps vs

/-- Takes the presets of the parameters that were not given. -/
def takePresets (ps : List Parameter) (vs : Values) : Values :=
  ps.foldl (fun vs p =>
    match p.preset with
    | some v => if vs.has p.id then vs else vs.add p.id .preset [v]
    | none => vs) vs

/-- The parameters that have to be given and were not. -/
def missing (ps : List Parameter) (vs : Values) : List Parameter :=
  let partners := (ps.filter fun p => vs.isExplicit p.id).filterMap (·.partner)
  ps.filter fun p => (p.isRequired || partners.contains p.id) && !vs.isExplicit p.id

/-- Ends the reading of a command; `inner` is the selection among its members, if it is a group
and one of them was named. -/
def finish (g : Grammar) (path : List String) (c : Command τ) (s : Progress)
    (inner : Option (Selection τ)) : Except Stop (Selection τ) := do
  let ps := c.parameters g.shared
  let s ← orStop (settle s)
  let values ← orStop (takeVariables g.env ps s.values)
  let values := takePresets ps values
  let absent := missing ps values
  match c, inner with
  | .group _ _ _ _, none =>
    if values.any (·.origin != .preset) then
      .error (.mistake (.missingCommand (" ".intercalate path)))
    else .error (.incomplete (Help.text g.env false path c g.shared))
  | .group _ _ _ _, some i =>
    if absent.isEmpty then return { i with values := values.merge i.values }
    else .error (.mistake (.missingParameters (absent.map (·.label))))
  | .task _ _ _ build, _ =>
    if absent.isEmpty then return ⟨build, values⟩
    else .error (.mistake (.missingParameters (absent.map (·.label))))

/-- A value without a name, or a mistake. -/
def readValue (g : Grammar) (c : Command τ) (word : String) (s : Progress) :
    Except Stop Progress :=
  match ((c.parameters g.shared).filter (·.kind == .positional))[s.taken]? with
  | some p => do
    let s ← orStop (settle s)
    return { s with pending := some (p, [word]), taken := s.taken + 1 }
  | none =>
    if c.isGroup && !(s.onlyValues && c.members.any (·.name == word)) then
      .error (.mistake (.unknownCommand word))
    else .error (.mistake (.unknownArgument word))

/-- The value of the option before it, if that one waits for a value. -/
def valueOf? (s : Progress) (word : String) : Option Progress :=
  match s.pending with
  | some (p, []) => if s.onlyValues then none else some { s with pending := some (p, [word]) }
  | _ => none

/-- Reads the words of a command. -/
def read (g : Grammar) (path : List String) (c : Command τ) :
    Progress → List String → Except Stop (Selection τ)
  | s, [] => finish g path c s none
  | s, word :: rest =>
    if s.onlyValues then do read g path c (← readValue g c word s) rest
    else
      let waits := (valueOf? s word).isSome
      match if waits then none else c.members.find? (·.name == word) with
      | some m => do
        let inner ← read g (path ++ [m.name]) m .start rest
        finish g path c s (some inner)
      | none =>
        if !waits && c.isGroup && word = "help" then .error (describe g path c rest)
        else if word = "--" then read g path c { s with onlyValues := true } rest
        else
          match longOf? word.toList, shortsOf? word.toList with
          | some (name, value), _ => do read g path c (← readLong g path c name value s) rest
          | none, some shorts => do read g path c (← readShorts g path c shorts s) rest
          | none, none =>
            match valueOf? s word with
            | some s => read g path c s rest
            | none => do read g path c (← readValue g c word s) rest

end Scenarist.Command
