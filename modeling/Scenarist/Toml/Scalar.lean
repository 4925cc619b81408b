import Scenarist.Toml.Basic
import Scenarist.Text.Digit
import Scenarist.Time.Instant

/-!
# Scalars of TOML

How the strings, numbers and dates of TOML are read. Each reader takes a scalar off the start
of a text and gives its value and the rest; it fails where the text is no scalar of its kind,
and no other reading of such a text is a TOML value either.
-/

namespace Scenarist.Toml

/-- A blank inside a line. -/
def isBlank (c : Char) : Bool := c == ' ' || c == '\t'

/-- A control character that may not stand in a string or a comment. -/
def isControl (c : Char) : Bool := (c.toNat < 32 && c != '\t') || c.toNat == 127

/-- The rest of a text after a line end. -/
def lineEnd? : List Char → Option (List Char)
  | '\n' :: cs => some cs
  | '\r' :: '\n' :: cs => some cs
  | _ => none

/-! ### Strings -/

/-- The character with the code point of exactly `count` hexadecimal digits. -/
def codePoint? (count : Nat) (cs : List Char) : Option (Char × List Char) := do
  let digits := cs.take count
  if digits.length ≠ count then none
  else
    let n ← Text.numberIn? 16 digits
    if n.isValidChar then some (Char.ofNat n, cs.drop count) else none

/-- The character of an escape, its backslash already read. -/
def escape? : List Char → Option (Char × List Char)
  | 'b' :: cs => some (Char.ofNat 8, cs)
  | 't' :: cs => some ('\t', cs)
  | 'n' :: cs => some ('\n', cs)
  | 'f' :: cs => some (Char.ofNat 12, cs)
  | 'r' :: cs => some ('\r', cs)
  | '"' :: cs => some ('"', cs)
  | '\\' :: cs => some ('\\', cs)
  | 'u' :: cs => codePoint? 4 cs
  | 'U' :: cs => codePoint? 8 cs
  | _ => none

/-- A string on one line with escapes, its opening quote already read. -/
def basicString (acc : List Char) : Nat → List Char → Option (String × List Char)
  | 0, _ => none
  | fuel + 1, cs =>
    match cs with
    | [] => none
    | '"' :: cs => some (String.ofList acc.reverse, cs)
    | '\\' :: cs =>
      match escape? cs with
      | some (c, cs) => basicString (c :: acc) fuel cs
      | none => none
    | c :: cs => if isControl c then none else basicString (c :: acc) fuel cs

/-- A string on one line without escapes, its opening quote already read. -/
def literalString (acc : List Char) : List Char → Option (String × List Char)
  | [] => none
  | '\'' :: cs => some (String.ofList acc.reverse, cs)
  | c :: cs => if isControl c then none else literalString (c :: acc) cs

/-- The text after a backslash at the end of a line: line ends and blanks are left out. -/
def continuation? (cs : List Char) : Option (List Char) :=
  match lineEnd? (cs.dropWhile isBlank) with
  | some rest => some (rest.dropWhile fun c => isBlank c || c == '\n' || c == '\r')
  | none => none

/-- Three to five quotes close a string over several lines; the first ones belong to it. -/
def closingQuotes? (q : Char) (cs : List Char) : Option (List Char × List Char) :=
  let run := cs.takeWhile (· == q)
  if run.length < 3 then none
  else
    let inner := min (run.length - 3) 2
    some (List.replicate inner q, cs.drop (inner + 3))

/-- A string over several lines; `escapes` says whether a backslash escapes. -/
def multilineString (q : Char) (escapes : Bool) (acc : List Char) :
    Nat → List Char → Option (String × List Char)
  | 0, _ => none
  | fuel + 1, cs =>
    match cs with
    | [] => none
    | c :: rest =>
      if c = q then
        match closingQuotes? q cs with
        | some (inner, after) => some (String.ofList (acc.reverse ++ inner), after)
        | none => multilineString q escapes (c :: acc) fuel rest
      else if escapes && c = '\\' then
        match continuation? rest with
        | some after => multilineString q escapes acc fuel after
        | none =>
          match escape? rest with
          | some (d, after) => multilineString q escapes (d :: acc) fuel after
          | none => none
      else
        match lineEnd? cs with
        | some after => multilineString q escapes ('\n' :: acc) fuel after
        | none => if isControl c then none else multilineString q escapes (c :: acc) fuel rest

/-- The text without a line end at its start. -/
def dropLineEnd (cs : List Char) : List Char := (lineEnd? cs).getD cs

/-- A string of any of the four kinds. -/
def stringValue (cs : List Char) : Option (String × List Char) :=
  match cs with
  | '"' :: '"' :: '"' :: cs => multilineString '"' true [] (cs.length + 1) (dropLineEnd cs)
  | '\'' :: '\'' :: '\'' :: cs => multilineString '\'' false [] (cs.length + 1) (dropLineEnd cs)
  | '"' :: cs => basicString [] (cs.length + 1) cs
  | '\'' :: cs => literalString [] cs
  | _ => none

/-! ### Numbers -/

/-- Digits that satisfy `ok`, single underscores between them left out. -/
def digitRun (ok : Char → Bool) : List Char → List Char × List Char
  | c :: '_' :: d :: cs =>
    if ok c then
      if ok d then
        let (ds, rest) := digitRun ok (d :: cs)
        (c :: ds, rest)
      else ([c], '_' :: d :: cs)
    else ([], c :: '_' :: d :: cs)
  | c :: cs =>
    if ok c then
      let (ds, rest) := digitRun ok cs
      (c :: ds, rest)
    else ([], c :: cs)
  | [] => ([], [])

/-- The number that digits stand for in a base. -/
def valueOf (base : Nat) (digits : List Char) : Nat :=
  digits.foldl (fun n c => base * n + (Text.hexValue? c).getD 0) 0

/-- A whole number in a base other than ten, its mark already read. -/
def basedInteger (base : Nat) (ok : Char → Bool) (cs : List Char) : Option (Toml × List Char) :=
  let (digits, rest) := digitRun ok cs
  if digits.isEmpty then none
  else
    let n := valueOf base digits
    if n < Nat.pow 2 63 then some (.integer n, rest) else none

/-- The sign of a number: set if it is negative. -/
def signOf : List Char → Bool × List Char
  | '-' :: cs => (true, cs)
  | '+' :: cs => (false, cs)
  | cs => (false, cs)

/-- Digits before a point, without a zero in front of others. -/
def wholeDigits (cs : List Char) : Option (List Char × List Char) :=
  match cs with
  | '0' :: rest => some (['0'], rest)
  | cs =>
    let (digits, rest) := digitRun Char.isDigit cs
    if digits.isEmpty then none else some (digits, rest)

/-- The digits after a point, if there is one. -/
def fractionDigits : List Char → Option ((Option (List Char)) × List Char)
  | '.' :: cs =>
    let (digits, rest) := digitRun Char.isDigit cs
    if digits.isEmpty then none else some (some digits, rest)
  | cs => some (none, cs)

/-- The exponent of a number, if there is one. -/
def exponent (cs : List Char) : Option ((Option Int) × List Char) :=
  match cs with
  | c :: rest =>
    if c = 'e' || c = 'E' then
      let (down, rest) := signOf rest
      let (digits, rest) := digitRun Char.isDigit rest
      if digits.isEmpty then none
      else
        let n := min (valueOf 10 digits) 100000
        some (some (if down then -(n : Int) else n), rest)
    else some (none, cs)
  | [] => some (none, [])

/-- A decimal number, whole or not. -/
def decimalNumber (negative : Bool) (cs : List Char) : Option (Toml × List Char) := do
  let (whole, cs) ← wholeDigits cs
  let (fraction, cs) ← fractionDigits cs
  let (power, cs) ← exponent cs
  match fraction, power with
  | none, none =>
    let n := valueOf 10 whole
    if negative then
      if n ≤ Nat.pow 2 63 then some (.integer (-(n : Int)), cs) else none
    else if n < Nat.pow 2 63 then some (.integer n, cs) else none
  | _, _ =>
    let places := fraction.getD []
    let digits := valueOf 10 (whole ++ places)
    let shift := power.getD 0 - places.length
    let x : Double := if digits = 0 then .zero negative
      else if shift + (whole ++ places).length < -400 then .zero negative
      else .ofDecimal negative digits (min shift 1000)
    if x.isInfinite && !negative then none else some (.float x, cs)

/-- A number of any kind. -/
def numberValue (cs : List Char) : Option (Toml × List Char) :=
  match cs with
  | '0' :: 'x' :: cs => basedInteger 16 Text.isHexDigit cs
  | '0' :: 'o' :: cs => basedInteger 8 (fun c => '0' ≤ c && c ≤ '7') cs
  | '0' :: 'b' :: cs => basedInteger 2 (fun c => c == '0' || c == '1') cs
  | cs =>
    let (negative, rest) := signOf cs
    match rest with
    | 'i' :: 'n' :: 'f' :: rest => some (.float ⟨negative, BinaryFormat.double.infinity⟩, rest)
    | 'n' :: 'a' :: 'n' :: rest =>
      some (.float ⟨negative, BinaryFormat.double.infinity + Nat.pow 2 51⟩, rest)
    | rest => decimalNumber negative rest

/-! ### Dates -/

/-- A number of exactly `count` digits in a range. -/
def fixedNumber (count low high : Nat) (cs : List Char) : Option (Nat × List Char) :=
  let digits := cs.take count
  if digits.length = count && digits.all Char.isDigit then
    let n := valueOf 10 digits
    if low ≤ n && n ≤ high then some (n, cs.drop count) else none
  else none

/-- The rest of a text after a character. -/
def after? (c : Char) : List Char → Option (List Char)
  | d :: cs => if d = c then some cs else none
  | [] => none

/-- A date. -/
def dateText (cs : List Char) : Option (List Char × List Char) := do
  let (y, rest) ← fixedNumber 4 0 9999 cs
  let rest ← after? '-' rest
  let (m, rest) ← fixedNumber 2 1 12 rest
  let rest ← after? '-' rest
  let (_, rest) ← fixedNumber 2 1 (Time.daysInMonth y m) rest
  return (cs.take 10, rest)

/-- The fraction of a second as it is written: nine digits at most, without zeros at the end. -/
def fractionText (digits : List Char) : List Char :=
  let kept := ((digits.take 9).reverse.dropWhile (· == '0')).reverse
  if kept.isEmpty then [] else '.' :: kept

/-- A time of day. -/
def timeText (cs : List Char) : Option (List Char × List Char) := do
  let (_, rest) ← fixedNumber 2 0 23 cs
  let rest ← after? ':' rest
  let (_, rest) ← fixedNumber 2 0 59 rest
  let rest ← after? ':' rest
  let (_, rest) ← fixedNumber 2 0 60 rest
  match rest with
  | '.' :: more =>
    let digits := more.takeWhile Char.isDigit
    if digits.isEmpty then none
    else some (cs.take 8 ++ fractionText digits, more.dropWhile Char.isDigit)
  | rest => some (cs.take 8, rest)

/-- An offset from UTC, if there is one. -/
def offsetText (cs : List Char) : Option (List Char × List Char) :=
  match cs with
  | 'Z' :: rest => some (['Z'], rest)
  | 'z' :: rest => some (['Z'], rest)
  | c :: rest =>
    if c = '+' || c = '-' then do
      let (_, after) ← fixedNumber 2 0 23 rest
      let after ← after? ':' after
      let (_, after) ← fixedNumber 2 0 59 after
      let zero := rest.take 5 == "00:00".toList
      return ((if zero then '+' else c) :: rest.take 5, after)
    else some ([], cs)
  | [] => some ([], [])

/-- A date, a time of day, or both with or without an offset. -/
def dateValue (cs : List Char) : Option (String × List Char) :=
  match dateText cs with
  | none => (timeText cs).map fun (t, rest) => (String.ofList t, rest)
  | some (d, rest) =>
    match rest with
    | c :: more =>
      if c = 'T' || c = 't' || c = ' ' then
        match timeText more with
        | none => if c = ' ' then some (String.ofList d, rest) else none
        | some (t, rest) =>
          (offsetText rest).map fun (o, rest) => (String.ofList (d ++ 'T' :: t ++ o), rest)
      else some (String.ofList d, rest)
    | [] => some (String.ofList d, [])

end Scenarist.Toml
