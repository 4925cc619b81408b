import Scenarist.Yaml.Plain

/-!
# Strings in YAML

A string is written in the plainest form that can hold it: without quotes, in single quotes, or in
double quotes with escapes. A string with a line end is written as a block of lines, unless blanks
at the end of a line or characters that cannot be printed stand in the way.
-/

namespace Scenarist.Yaml

/-! ### Characters -/

/-- A character that ends a line. -/
def isBreak (c : Char) : Bool :=
  [0x0A, 0x0D, 0x85, 0x2028, 0x2029].contains c.toNat

/-- A blank or the end of a line. -/
def isGap (c : Char) : Bool := c == ' ' || c == '\t' || c.toNat == 0 || isBreak c

/-- A character that can stand for itself. -/
def isPrintable (c : Char) : Bool :=
  let n := c.toNat
  n == 0x0A || (0x20 ≤ n && n ≤ 0x7E) || (0xA0 ≤ n && n ≤ 0xD7FF) ||
    (0xE000 ≤ n && n ≤ 0xFFFD && n != 0xFEFF) || 0x10000 ≤ n

/-- The text goes on with a blank or the end of a line, or ends. -/
def gapFollows : List Char → Bool
  | [] => true
  | c :: _ => isGap c

/-- Characters that mean something at the start of a scalar. -/
def leadIndicators : List Char :=
  ['#', ',', '[', ']', '\x7b', '\x7d', '&', '*', '!', '|', '>', '\'', '"', '%', '@', '\x60']

/-- A character inside a scalar would end it: a colon before a gap, or a hash after one. -/
def endsInside (afterGap : Bool) : List Char → Bool
  | [] => false
  | c :: cs =>
    (c == ':' && gapFollows cs) || (c == '#' && afterGap) || endsInside (isGap c) cs

/-- The text would not be read as one scalar without quotes. -/
def hasIndicator (cs : List Char) : Bool :=
  ['-', '-', '-'].isPrefixOf cs || ['.', '.', '.'].isPrefixOf cs || endsInside true cs ||
    (match cs with
      | c :: rest => leadIndicators.contains c || ((c == '?' || c == '-') && gapFollows rest)
      | [] => false)

/-- Two neighbouring characters satisfy two tests. -/
def hasNeighbours (p q : Char → Bool) : List Char → Bool
  | a :: b :: cs => (p a && q b) || hasNeighbours p q (b :: cs)
  | _ => false

/-! ### Forms -/

/-- The forms of a string. -/
inductive Form where
  | plain
  | single
  | double
  | block
deriving DecidableEq, Repr

/-- A character other than the printable ones, or a blank at the end of a line that is not the
last. -/
def needsEscapes (cs : List Char) : Bool :=
  cs.any (!isPrintable ·) || hasNeighbours (· == ' ') isBreak cs

/-- The string can stand in single quotes. -/
def fitsSingle (cs : List Char) : Bool :=
  !needsEscapes cs && !hasNeighbours isBreak (· == ' ') cs

/-- The string can stand without quotes. -/
def fitsPlain (cs : List Char) : Bool :=
  let edge (c : Option Char) : Bool := c.any fun c => c == ' ' || isBreak c
  fitsSingle cs && !cs.any isBreak && !edge cs.head? && !edge cs.getLast? && !hasIndicator cs

/-- The string can be written as a block of lines. -/
def fitsBlock (cs : List Char) : Bool := !needsEscapes cs && cs.getLast? != some ' '

/-- The form of a string. -/
def formOf (cs : List Char) : Form :=
  if cs.contains '\n' then (if fitsBlock cs then .block else .double)
  else if !isAmbiguous cs && fitsPlain cs then .plain
  else if fitsSingle cs then .single
  else .double

/-- Blanks up to a column. -/
def spaces (n : Nat) : List Char := List.replicate n ' '

/-- The inside of single quotes: quotes are doubled, and a line that is not the first is
indented. -/
def singleBody (indent : Nat) (afterBreak : Bool) : List Char → List Char
  | [] => if afterBreak then spaces indent else []
  | c :: cs =>
    if isBreak c then c :: singleBody indent true cs
    else
      (if afterBreak then spaces indent else []) ++ (if c = '\'' then ['\'', '\''] else [c]) ++
        singleBody indent false cs

/-- The escapes with a name of their own. -/
def namedEscapes : List (Nat × Char) :=
  [(0x00, '0'), (0x07, 'a'), (0x08, 'b'), (0x09, 't'), (0x0A, 'n'), (0x0B, 'v'), (0x0C, 'f'),
    (0x0D, 'r'), (0x1B, 'e'), (0x22, '"'), (0x5C, '\\'), (0x85, 'N'), (0xA0, '_'), (0x2028, 'L'),
    (0x2029, 'P')]

/-- A character inside double quotes. -/
def escapeChar (c : Char) : List Char :=
  if isPrintable c && !isBreak c && c != '"' && c != '\\' then [c]
  else
    match namedEscapes.lookup c.toNat with
    | some e => ['\\', e]
    | none =>
      if c.toNat < 0x100 then '\\' :: 'x' :: Text.paddedHex 2 c.toNat
      else if c.toNat < 0x10000 then '\\' :: 'u' :: Text.paddedHex 4 c.toNat
      else '\\' :: 'U' :: Text.paddedHex 8 c.toNat

/-- The header of a block: the indentation if the first line does not show it, and what becomes of
the line ends at the end. -/
def blockHeader (cs : List Char) : List Char :=
  let hint := match cs.head? with
    | some c => if c == ' ' || isBreak c then ['2'] else []
    | none => []
  let chomp := match cs.reverse with
    | [] => ['-']
    | [c] => if isBreak c then ['+'] else ['-']
    | c :: d :: _ => if !isBreak c then ['-'] else if isBreak d then ['+'] else []
  '|' :: hint ++ chomp

/-- The lines of a block, each but an empty one indented. -/
def blockBody (indent : Nat) (afterBreak : Bool) : List Char → List Char
  | [] => []
  | c :: cs =>
    if isBreak c then c :: blockBody indent true cs
    else (if afterBreak then spaces indent else []) ++ c :: blockBody indent false cs

/-- A string in its form; the lines of a block are indented. -/
def stringText (indent : Nat) (cs : List Char) : List Char :=
  match formOf cs with
  | .plain => cs
  | .single => '\'' :: singleBody indent false cs ++ ['\'']
  | .double => '"' :: cs.flatMap escapeChar ++ ['"']
  | .block => blockHeader cs ++ '\n' :: blockBody indent true cs

end Scenarist.Yaml
