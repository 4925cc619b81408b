import Scenarist.Command.Parameter
import Scenarist.Text.Width

/-!
# Descriptions of commands

The text that describes a command: what it is for, how it is used, its commands, its values and
its options. In the short form every parameter has its explanation beside it; in the detailed one
the explanation stands below, and the choices of a parameter are explained too.
-/

namespace Scenarist.Command.Help

variable {τ : Type}

/-- The width of descriptions. -/
def lineWidth : Nat := 100

/-- Blanks. -/
def blanks (n : Nat) : String := String.ofList (List.replicate n ' ')

/-- The width of a text. -/
def widthOf (s : String) : Nat := Text.width s.toList

/-- A text filled up with blanks. -/
def filled (width : Nat) (s : String) : String := s ++ blanks (width - widthOf s)

/-- Words on lines of at most the given width; `line` is the line begun. -/
def fillLines (width : Nat) (line : String) : List String → List String
  | [] => [line]
  | w :: ws =>
    if line.isEmpty then fillLines width w ws
    else if widthOf line + 1 + widthOf w ≤ width then fillLines width (line ++ " " ++ w) ws
    else line :: fillLines width w ws

/-- A paragraph on lines of at most the given width. -/
def wrapped (width : Nat) (s : String) : List String := fillLines width "" (s.splitOn " ")

/-- Lines, each but the first indented. -/
def hanging (indent : Nat) (lines : List String) : String :=
  ("\n" ++ blanks indent).intercalate lines

/-! ### Parameters -/

/-- The remarks on a parameter: its variable, its preset and its choices. -/
def remarks (env : String → Option String) (detailed : Bool) (p : Parameter) : List String :=
  let variable_ := p.variable_.map fun v =>
    "[env: " ++ v ++ (if p.isSecret then "" else "=" ++ (env v).getD "") ++ "]"
  let preset := p.preset.map fun v => "[default: " ++ v ++ "]"
  let explained := detailed && p.choices.any (·.about.isSome)
  let choices :=
    if p.choices.isEmpty || explained then none
    else some ("[possible values: " ++ ", ".intercalate (p.choices.map (·.name)) ++ "]")
  variable_.toList ++ preset.toList ++ choices.toList

/-- A parameter at the start of its description. -/
def head (p : Parameter) : String :=
  match p.long, p.short with
  | none, _ => p.label
  | some _, some s => "-" ++ s.toString ++ ", " ++ p.label
  | some _, none => "    " ++ p.label

/-- The explanation of a parameter in the detailed form. -/
def detailAbout (p : Parameter) : String :=
  if p.kind = .help then "Print help (see a summary with '-h')" else p.about

/-- A choice with its explanation, in a column of the given width. -/
def choiceLine (width : Nat) (c : Choice) : String :=
  match c.about with
  | some a => "- " ++ filled (width + 1) (c.name ++ ":") ++ " " ++ a
  | none => "- " ++ c.name

/-- The explained choices of a parameter. -/
def choiceLines (p : Parameter) : List String :=
  if p.choices.any (·.about.isSome) then
    let width := (p.choices.map fun c => widthOf c.name).foldl max 0
    "Possible values:" :: p.choices.map (choiceLine width)
  else []

/-- A parameter with its explanation beside it. -/
def shortEntry (env : String → Option String) (column : Nat) (p : Parameter) : String :=
  let text := " ".intercalate (p.about :: remarks env false p)
  "  " ++ filled (column - 2) (head p) ++ hanging column (wrapped (lineWidth - column) text)

/-- A parameter with its explanation below it. -/
def longEntry (env : String → Option String) (p : Parameter) : String :=
  let indent := 10
  let notes := remarks env true p
  let about := wrapped (lineWidth - indent) (detailAbout p)
  let body := about ++ (if notes.isEmpty then [] else "" :: notes)
  let choices := choiceLines p
  "  " ++ head p ++ "\n" ++ blanks indent ++ hanging indent body ++
    (if choices.isEmpty then ""
      else "\n\n" ++ blanks indent ++ hanging indent choices)

/-- What options are sorted by within one place. -/
def sortKey (p : Parameter) : String :=
  match p.short, p.long with
  | some s, _ => s.toLower.toString ++ (if s.isLower then "0" else "1")
  | none, some l => l
  | none, none => "\x7b" ++ p.id

/-- One option stands before another. -/
def precedes (a b : Parameter) : Bool :=
  a.order < b.order || (a.order == b.order && decide (sortKey a ≤ sortKey b))

/-- A section with parameters, if there are any. -/
def section_ (env : String → Option String) (detailed : Bool) (heading : String) (margin : Nat)
    (ps : List Parameter) : List String :=
  if ps.isEmpty then []
  else
    let longest := (ps.map fun p => widthOf p.label).foldl max 2
    let entries :=
      if detailed then "\n\n".intercalate (ps.map (longEntry env))
      else "\n".intercalate (ps.map (shortEntry env (longest + margin)))
    [heading ++ ":\n" ++ entries]

/-! ### Commands -/

/-- The commands of a group, with the one that describes them. -/
def memberEntries (c : Command τ) : List (String × String) :=
  c.members.map (fun m => (m.name, m.about)) ++
    [("help", "Print this message or the help of the given subcommand(s)")]

/-- The section with the commands of a group. -/
def memberSection (c : Command τ) : List String :=
  if c.isGroup then
    let entries := memberEntries c
    let longest := (entries.map fun (n, _) => widthOf n).foldl max 2
    let line := fun (n, a) => "  " ++ filled (longest + 2) n ++
      hanging (longest + 4) (wrapped (lineWidth - longest - 4) a)
    ["Commands:\n" ++ "\n".intercalate (entries.map line)]
  else []

/-- How a command is used. -/
def usage (path : List String) (c : Command τ) (shared : List Parameter) : String :=
  let ps := c.ownParameters ++ shared
  let isOption (p : Parameter) : Bool := p.kind != .positional && !p.isRequired
  let options := if ps.any isOption then ["[OPTIONS]"] else []
  let required := (ps.filter fun p => p.kind != .positional && p.isRequired).map (·.label)
  let values := (ps.filter (·.kind == .positional)).map (·.label)
  " ".intercalate ("Usage:" :: path ++ options ++ required ++ values ++
    (if c.isGroup then ["<COMMAND>"] else []))

/-- The description of a command, which is reached by a path of names. -/
def text (env : String → Option String) (detailed : Bool) (path : List String) (c : Command τ)
    (shared : List Parameter) : String :=
  let ps := c.parameters shared
  let values := ps.filter (·.kind == .positional)
  let options := (ps.filter (·.kind != .positional)).mergeSort precedes
  let parts := [c.about, usage path c shared] ++ memberSection c ++
    section_ env detailed "Arguments" 4 values ++ section_ env detailed "Options" 8 options
  "\n\n".intercalate parts ++ "\n"

end Scenarist.Command.Help
