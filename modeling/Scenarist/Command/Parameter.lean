import Scenarist.Text.Ink

/-!
# Commands and their parameters

What can be said on a command line: a tree of commands, and for each of them its parameters. A
parameter is a flag, an option with a value or with several, or has its place among the values
without a name. What was said is kept with its origin, so that a stronger one can take the place
of a weaker one.
-/

namespace Scenarist.Command

/-- How a parameter is given. -/
inductive Kind where
  | flag
  | single
  | repeated
  | positional
  /-- A flag that asks for the description of the command. -/
  | help
  /-- A flag that asks for the version. -/
  | version
deriving DecidableEq, Repr

/-- One of the values a parameter can have. -/
structure Choice where
  name : String
  about : Option String
deriving DecidableEq, Repr

/-- A parameter of a command. -/
structure Parameter where
  /-- What its values are kept under. -/
  id : String
  kind : Kind
  about : String
  short : Option Char
  long : Option String
  /-- What stands for its value in descriptions. -/
  placeholder : String
  isRequired : Bool
  /-- Another parameter that has to be given with it. -/
  partner : Option String
  /-- The variable of the environment that stands in for it. -/
  variable_ : Option String
  /-- The value of the variable is not shown. -/
  isSecret : Bool
  /-- An empty value is none. -/
  refusesEmpty : Bool
  /-- The values it can have; any if there are none. -/
  choices : List Choice
  /-- The value where nothing is said. -/
  preset : Option String
  /-- Where it stands among the options in descriptions. -/
  order : Nat
deriving Repr

namespace Parameter

/-- The parameter has a value. -/
def hasValue (p : Parameter) : Bool :=
  match p.kind with
  | .flag => false
  | .help => false
  | .version => false
  | _ => true

/-- A parameter in descriptions and errors. -/
def label (p : Parameter) : String :=
  let value := "<" ++ p.placeholder ++ ">"
  match p.long with
  | some l => "--" ++ l ++ (if p.hasValue then " " ++ value else "")
  | none => value

/-- An option with a value. -/
def option (id about : String) (order : Nat) : Parameter where
  id := id
  kind := .single
  about := about
  short := none
  long := some (id.map fun c => if c = '_' then '-' else c)
  placeholder := id.map Char.toUpper
  isRequired := false
  partner := none
  variable_ := none
  isSecret := false
  refusesEmpty := false
  choices := []
  preset := none
  order := order

/-- A flag. -/
def flag (id about : String) (order : Nat) : Parameter :=
  { option id about order with kind := .flag }

/-- A value without a name that has to be given. -/
def argument (id about : String) : Parameter :=
  { option id about 0 with kind := .positional, long := none, isRequired := true }

/-- The place of the flags that every command has: after all others. -/
def lastPlace : Nat := 999

/-- The flag that asks for the description of the command, in detail if it is written out. -/
def help : Parameter :=
  { option "help" "Print help (see more with '--help')" lastPlace with
    kind := .help
    short := some 'h' }

/-- The flag that asks for the version. -/
def version : Parameter :=
  { option "version" "Print version" lastPlace with kind := .version, short := some 'V' }

end Parameter

/-- Where a value comes from. -/
inductive Origin where
  | preset
  | environment
  | commandLine
deriving DecidableEq, Repr

/-- How strong an origin is. -/
def Origin.rank : Origin → Nat
  | preset => 0
  | environment => 1
  | commandLine => 2

/-- The values of a parameter. -/
structure Given where
  id : String
  origin : Origin
  values : List String
deriving DecidableEq, Repr

/-- What was said, parameter by parameter. -/
abbrev Values := List Given

namespace Values

/-- What was said of a parameter. -/
def find? (vs : Values) (id : String) : Option Given := List.find? (fun g => g.id == id) vs

/-- The parameter was given, be it by a preset. -/
def has (vs : Values) (id : String) : Bool := (vs.find? id).isSome

/-- The parameter was given by someone. -/
def isExplicit (vs : Values) (id : String) : Bool := (vs.find? id).any (·.origin != .preset)

/-- The values of a parameter. -/
def texts (vs : Values) (id : String) : List String := ((vs.find? id).map (·.values)).getD []

/-- The value of a parameter. -/
def text? (vs : Values) (id : String) : Option String := (vs.texts id).head?

/-- The flag was given. -/
def isSet (vs : Values) (id : String) : Bool := vs.has id

/-- What was said on two levels: of a parameter on both, the inner level counts unless the origin
of the outer one is stronger. -/
def merge (outer inner : Values) : Values :=
  let kept := outer.filter fun g =>
    (inner.find? g.id).all fun i => i.origin.rank < g.origin.rank
  kept ++ inner.filter fun i => !Values.has kept i.id

end Values

end Scenarist.Command

namespace Scenarist

/-- A command: a task with parameters, whose values determine a `τ`, or a group of commands. -/
inductive Command (τ : Type) where
  | task (name about : String) (parameters : List Command.Parameter) (build : Command.Values → τ)
  | group (name about : String) (parameters : List Command.Parameter)
      (members : List (Command τ))

namespace Command

variable {τ : Type}

/-- The name of a command. -/
def name : Command τ → String
  | .task n _ _ _ => n
  | .group n _ _ _ => n

/-- What a command is for. -/
def about : Command τ → String
  | .task _ a _ _ => a
  | .group _ a _ _ => a

/-- The commands of a group. -/
def members : Command τ → List (Command τ)
  | .task _ _ _ _ => []
  | .group _ _ _ ms => ms

/-- The parameters of a command as it was declared. -/
def ownParameters : Command τ → List Parameter
  | .task _ _ ps _ => ps
  | .group _ _ ps _ => ps

/-- The command is a group. -/
def isGroup : Command τ → Bool
  | .task _ _ _ _ => false
  | .group _ _ _ _ => true

/-- The parameters of a command, `shared` being those that every command has. -/
def parameters (c : Command τ) (shared : List Parameter) : List Parameter :=
  c.ownParameters ++ shared ++ [.help, .version]

end Command

end Scenarist
