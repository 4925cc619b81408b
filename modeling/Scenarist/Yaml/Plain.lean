import Scenarist.Decimal.Binary
import Scenarist.Text.Digit

/-!
# Plain scalars

What a YAML reader takes a scalar without quotes for: the absence of a value, a truth value, a
whole number in one of four bases, a floating-point number, or a text. A text that would be taken
for something else has to be quoted.
-/

namespace Scenarist.Yaml

/-- The text without one of the given signs in front. -/
def withoutSign (signs : List Char) : List Char → List Char
  | [] => []
  | c :: cs => if signs.contains c then cs else c :: cs

/-- The text starts with a sign. -/
def isSigned : List Char → Bool
  | c :: _ => c == '+' || c == '-'
  | [] => false

/-- The scalar stands for no value. -/
def isNullWord (cs : List Char) : Bool :=
  ["", "null", "Null", "NULL", "~"].contains (String.ofList cs)

/-- The scalar is a truth value. -/
def isTruthWord (cs : List Char) : Bool :=
  ["true", "True", "TRUE", "false", "False", "FALSE"].contains (String.ofList cs)

/-- Digits after a leading zero are a text and no number. -/
def isZeroLed (cs : List Char) : Bool :=
  match withoutSign ['-', '+'] cs with
  | '0' :: d :: ds => (d :: ds).all Char.isDigit
  | _ => false

/-- The number that digits of a base stand for, at least one of them. -/
def digitsIn? (base : Nat) (cs : List Char) : Option Nat :=
  if cs.isEmpty then none else Text.numberIn? base cs

/-- The number after its sign, in the base that its first characters tell. -/
def magnitude? : List Char → Option Nat
  | '0' :: 'x' :: cs => digitsIn? 16 cs
  | '0' :: 'o' :: cs => digitsIn? 8 cs
  | '0' :: 'b' :: cs => digitsIn? 2 cs
  | cs => digitsIn? 10 cs

/-- The scalar is a whole number of at most 128 bits. -/
def isWholeNumber (cs : List Char) : Bool :=
  !isZeroLed cs && match cs with
    | '-' :: rest => (magnitude? rest).any (· ≤ Nat.pow 2 127)
    | _ => (magnitude? (withoutSign ['+'] cs)).any (· < Nat.pow 2 128)

/-- The number after the mark of an exponent, with its sign. -/
def exponentOf? : List Char → Option Int
  | '-' :: cs => (digitsIn? 10 cs).map fun n => -(n : Int)
  | cs => (digitsIn? 10 (withoutSign ['+'] cs)).map Int.ofNat

/-- A decimal without a sign: digits with a point among them or not, and an exponent. -/
def decimal? (cs : List Char) : Option (Nat × Int) := do
  let mantissa := cs.takeWhile fun c => c != 'e' && c != 'E'
  let whole := mantissa.takeWhile (· != '.')
  let fraction := (mantissa.dropWhile (· != '.')).drop 1
  let digits ← digitsIn? 10 (whole ++ fraction)
  let shift ← match cs.dropWhile fun c => c != 'e' && c != 'E' with
    | [] => some 0
    | _ :: e => exponentOf? e
  return (digits, shift - fraction.length)

/-- A decimal that is not too great for a double. -/
def isInRange (digits : Nat) (exponent : Int) : Bool :=
  if 0 ≤ exponent then
    digits == 0 || (exponent ≤ 1000 && (Binary.ofDecimal false digits exponent : Double).isFinite)
  else if digits.log2 < exponent.natAbs then true
  else (Binary.ofNat (digits / Nat.pow 10 exponent.natAbs) : Double).isFinite

/-- The scalar is a floating-point number that is not too great, an infinity or undefined. -/
def isFloat (cs : List Char) : Bool :=
  let positive := withoutSign ['+'] cs
  if cs.head? = some '+' && isSigned positive then false
  else if [".inf", ".Inf", ".INF"].contains (String.ofList positive) then true
  else if ["-.inf", "-.Inf", "-.INF", ".nan", ".NaN", ".NAN"].contains (String.ofList cs) then true
  else (decimal? (withoutSign ['-'] positive)).any fun (digits, e) => isInRange digits e

/-- The text has to be quoted, since a reader would take it for something else. -/
def isAmbiguous (cs : List Char) : Bool :=
  isNullWord cs || isTruthWord cs || isZeroLed cs || isWholeNumber cs || isFloat cs

end Scenarist.Yaml
