import Scenarist.Json.Basic
import Scenarist.Text.Digit

/-!
# The tokens of JSON text

Text is cut into punctuation, the three words, numbers and strings. A number or string that is
well formed may still have no value: a number beyond the largest one, or a string with half of
a surrogate pair. Such a token carries `none`, since a reader that skips it does not mind. The
first place where no token can be read becomes `junk`, the last token of the list.

Numbers are read the fast way: the digits form a whole number as long as it stays below
`2 ^ 64`, further digits only shift it, and the result is scaled once by a power of ten, each
operation rounding to the nearest double.
-/

namespace Scenarist.Json

/-- A token of JSON text. -/
inductive Token where
  | openBrace
  | closeBrace
  | openBracket
  | closeBracket
  | colon
  | comma
  | null
  | bool (b : Bool)
  | number (value : Option Number)
  | string (value : Option String)
  | junk
deriving DecidableEq, Repr

/-- The blanks that may stand between tokens. -/
def isSpace (c : Char) : Bool := c == ' ' || c == '\n' || c == '\t' || c == '\r'

/-! ### Numbers -/

/-- The value of a decimal digit. -/
def digitValue (c : Char) : Nat := c.toNat - 48

/-- Digits taken into a whole number while it stays below `2 ^ 64`, with what is left over. -/
def takeDigits (n : Nat) : List Char → Nat × List Char
  | [] => (n, [])
  | c :: cs =>
    let next := 10 * n + digitValue c
    if next < Nat.pow 2 64 then takeDigits next cs else (n, c :: cs)

/-- The whole number and the exponent of ten that the digits before and after the point give. -/
def significand (whole fraction : List Char) : Nat × Int :=
  match takeDigits 0 whole with
  | (n, []) =>
    let (m, rest) := takeDigits n fraction
    (m, -((fraction.length - rest.length : Nat) : Int))
  | (n, rest) =>
    let (m, left) := takeDigits n fraction
    (m, (rest.length : Int) - ((fraction.length - left.length : Nat) : Int))

/-- `x · 10 ^ e` by one multiplication or division, after dividing by `1e308` while `e` is too
small for the table of powers; `none` beyond the largest number. -/
def scale (x : Double) (e : Int) : Nat → Option Double
  | 0 => some (Binary.zero false)
  | fuel + 1 =>
    if e.natAbs ≤ 308 then
      let power : Double := .ofDecimal false 1 e.natAbs
      if 0 ≤ e then
        let y := x.mul power
        if y.isInfinite then none else some y
      else some (x.div power)
    else if x.magnitude = 0 then some x
    else if 0 ≤ e then none
    else scale (x.div (.ofDecimal false 1 308)) (e + 308) fuel

/-- A magnitude with a sign. -/
def signed (negative : Bool) (x : Double) : Double := ⟨negative, x.magnitude⟩

/-- The value of the digits of an exponent, unless it does not fit 32 bits. -/
def exponentValue? (digits : List Char) : Option Nat :=
  let n := digits.foldl (fun n c => min (10 * n + digitValue c) (Nat.pow 2 31)) 0
  if n < Nat.pow 2 31 then some n else none

/-- The value of a number with a fraction or an exponent. -/
def floatValue (negative : Bool) (whole fraction : List Char)
    (exponent : Option (Bool × List Char)) : Option Number :=
  let (n, shift) := significand whole fraction
  match exponent with
  | none => (scale (.ofNat n) shift 5).map fun x => .float (signed negative x)
  | some (down, digits) =>
    match exponentValue? digits with
    | none =>
      if n ≠ 0 && !down then none else some (.float (Binary.zero negative))
    | some e =>
      (scale (.ofNat n) (if down then shift - e else shift + e) 5).map fun x =>
        .float (signed negative x)

/-- The value of a number that is all whole digits. -/
def wholeValue (negative : Bool) (whole : List Char) : Option Number :=
  match takeDigits 0 whole with
  | (n, []) =>
    if !negative then some (.natural n)
    else if n = 0 || Nat.pow 2 63 < n then some (.float (signed true (.ofNat n)))
    else some (.negative n)
  | _ => floatValue negative whole [] none

/-- The digits at the start of a text, and the rest. -/
def spanDigits (cs : List Char) : List Char × List Char := cs.span Char.isDigit

/-- The digits after a point; `none` where a point has no digit after it. -/
def fractionPart : List Char → Option (Option (List Char) × List Char)
  | '.' :: cs =>
    let (digits, rest) := spanDigits cs
    if digits.isEmpty then none else some (some digits, rest)
  | cs => some (none, cs)

/-- The sign and digits of an exponent; `none` where it has no digit. -/
def exponentPart (cs : List Char) : Option (Option (Bool × List Char) × List Char) :=
  match cs with
  | c :: rest =>
    if c = 'e' || c = 'E' then
      let (down, rest) := match rest with
        | '+' :: r => (false, r)
        | '-' :: r => (true, r)
        | r => (false, r)
      let (digits, rest) := spanDigits rest
      if digits.isEmpty then none else some (some (down, digits), rest)
    else some (none, cs)
  | [] => some (none, [])

/-- The digits before the point: a zero alone, or digits that do not start with one. -/
def wholePart (cs : List Char) : Option (List Char × List Char) :=
  let (digits, rest) := spanDigits cs
  match digits with
  | [] => none
  | '0' :: _ :: _ => none
  | _ => some (digits, rest)

/-- The number at the start of a text, its sign already read. -/
def unsignedNumber (negative : Bool) (cs : List Char) : Option (Option Number × List Char) := do
  let (whole, cs) ← wholePart cs
  let (fraction, cs) ← fractionPart cs
  let (exponent, cs) ← exponentPart cs
  match fraction, exponent with
  | none, none => some (wholeValue negative whole, cs)
  | _, _ => some (floatValue negative whole (fraction.getD []) exponent, cs)

/-- The number at the start of a text. -/
def numberToken : List Char → Option (Option Number × List Char)
  | '-' :: cs => unsignedNumber true cs
  | cs => unsignedNumber false cs

/-! ### Strings -/

/-- The value of four hexadecimal digits. -/
def hex4? (a b c d : Char) : Option Nat := Text.numberIn? 16 [a, b, c, d]

/-- The character of a two-character escape. -/
def simpleEscape? (c : Char) : Option Char :=
  if c = '"' || c = '\\' || c = '/' then some c
  else if c = 'b' then some (Char.ofNat 8)
  else if c = 'f' then some (Char.ofNat 12)
  else if c = 'n' then some '\n'
  else if c = 'r' then some '\r'
  else if c = 't' then some '\t'
  else none

/-- The unit is the first half of a surrogate pair. -/
def isHighHalf (n : Nat) : Bool := 0xD800 ≤ n && n ≤ 0xDBFF

/-- The unit is the second half of a surrogate pair. -/
def isLowHalf (n : Nat) : Bool := 0xDC00 ≤ n && n ≤ 0xDFFF

/-- Adds a character to a string that has a value. -/
def push (acc : Option (List Char)) (c : Char) : Option (List Char) := acc.map (c :: ·)

/-- The rest of a string after its opening quote: what has been read backwards, or `none` once
half a pair stood alone, and the first half of a pair that waits for its second. The result is
`none` if the literal is not well formed. -/
def stringRest (acc : Option (List Char)) (half : Option Nat) :
    List Char → Option (Option String × List Char)
  | [] => none
  | '\\' :: 'u' :: a :: b :: c :: d :: cs =>
    match hex4? a b c d with
    | none => none
    | some n =>
      match half with
      | some h =>
        if isLowHalf n then
          stringRest (push acc (Char.ofNat (0x10000 + (h - 0xD800) * 1024 + (n - 0xDC00)))) none cs
        else stringRest none none cs
      | none =>
        if isHighHalf n then stringRest acc (some n) cs
        else if isLowHalf n then stringRest none none cs
        else stringRest (push acc (Char.ofNat n)) none cs
  | '\\' :: e :: cs =>
    match simpleEscape? e with
    | none => none
    | some c => stringRest (if half.isSome then none else push acc c) none cs
  | c :: cs =>
    if c = '"' then
      some ((if half.isSome then none else acc).map fun r => String.ofList r.reverse, cs)
    else if c = '\\' || c.toNat < 32 then none
    else stringRest (if half.isSome then none else push acc c) none cs

/-- The string at the start of a text whose opening quote has been read. -/
def stringToken (cs : List Char) : Option (Option String × List Char) :=
  stringRest (some []) none cs

/-! ### Tokens -/

/-- The token at the start of a text that does not start with a blank. -/
def nextToken : List Char → Option (Token × List Char)
  | '\x7b' :: cs => some (.openBrace, cs)
  | '\x7d' :: cs => some (.closeBrace, cs)
  | '[' :: cs => some (.openBracket, cs)
  | ']' :: cs => some (.closeBracket, cs)
  | ':' :: cs => some (.colon, cs)
  | ',' :: cs => some (.comma, cs)
  | 'n' :: 'u' :: 'l' :: 'l' :: cs => some (.null, cs)
  | 't' :: 'r' :: 'u' :: 'e' :: cs => some (.bool true, cs)
  | 'f' :: 'a' :: 'l' :: 's' :: 'e' :: cs => some (.bool false, cs)
  | '"' :: cs => (stringToken cs).map fun (v, rest) => (.string v, rest)
  | cs => (numberToken cs).map fun (v, rest) => (.number v, rest)

/-- The tokens of a text of at most `fuel` characters. -/
def tokensFrom : Nat → List Char → List Token
  | 0, _ => []
  | fuel + 1, cs =>
    match cs.dropWhile isSpace with
    | [] => []
    | cs =>
      match nextToken cs with
      | none => [.junk]
      | some (t, rest) => t :: tokensFrom fuel rest

/-- The tokens of a text; `junk` ends the list where no token can be read. -/
def tokens (cs : List Char) : List Token := tokensFrom (cs.length + 1) cs

end Scenarist.Json
