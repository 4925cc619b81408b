import Scenarist.Decimal.Shortest

/-!
# Writing decimals

Positional and scientific notation for the decimals of `Decimal/Shortest`, with the choices a
format makes kept in one record: where positional notation ends, and how the sign of an
exponent is written.
-/

namespace Scenarist.Decimal

/-- The digits with the point in its place: `0.00125`, `12.5`, or `1250` without a point. -/
def positional (d : Decimal) : List Char :=
  let digits := digitChars d.digits
  if 0 ≤ d.exponent then
    if d.digits = 0 then ['0'] else digits ++ List.replicate d.exponent.toNat '0'
  else
    let places := (-d.exponent).toNat
    if places < digits.length then
      digits.take (digits.length - places) ++ '.' :: digits.drop (digits.length - places)
    else '0' :: '.' :: List.replicate (places - digits.length) '0' ++ digits

/-- The positional form with at least one digit after the point. -/
def pointed (d : Decimal) : List Char :=
  if 0 ≤ d.exponent then positional d ++ ['.', '0'] else positional d

/-- How a format writes floating-point numbers. -/
structure Style where
  /-- The least exponent of the first digit that is written positionally. -/
  lowest : Int
  /-- The greatest such exponent. -/
  highest : Int
  /-- A non-negative exponent is written with a plus sign. -/
  plusSign : Bool

/-- One digit, the point and the other digits if there are any, and the exponent. -/
def scientific (plusSign : Bool) (d : Decimal) : List Char :=
  let digits := digitChars d.digits
  let e := d.leading
  let mantissa := match digits with
    | first :: rest@(_ :: _) => first :: '.' :: rest
    | ds => ds
  let sign := if e < 0 then ['-'] else if plusSign then ['+'] else []
  mantissa ++ 'e' :: sign ++ digitChars e.natAbs

/-- The text of a decimal in the given style. -/
def render (style : Style) (d : Decimal) : List Char :=
  if d.digits = 0 || (style.lowest ≤ d.leading && d.leading ≤ style.highest) then pointed d
  else scientific style.plusSign d

/-- The decimal text of a natural number. -/
def natText (n : Nat) : String := String.ofList (digitChars n)

/-- The decimal text of an integer. -/
def intText (n : Int) : String := if n < 0 then "-" ++ natText n.natAbs else natText n.natAbs

/-- A number with two places after the point, a half going to the even neighbour. -/
def twoPlaces (num den : Nat) : String :=
  let hundredths := BinaryFormat.roundQuotient (num * 100) den
  let frac := digitChars (hundredths % 100)
  natText (hundredths / 100) ++ "." ++
    String.ofList (List.replicate (2 - frac.length) '0' ++ frac)

end Scenarist.Decimal

namespace Scenarist.Binary

variable {f : BinaryFormat}

/-- The text of a finite number, its sign first. -/
def render (style : Decimal.Style) (x : Binary f) : String :=
  String.ofList ((if x.negative then ['-'] else []) ++ Decimal.render style x.shortest)

/-- The positional text of a finite number, its sign first, with a point only before digits
that need one. -/
def positional (x : Binary f) : String :=
  String.ofList ((if x.negative then ['-'] else []) ++ Decimal.positional x.shortest)

end Scenarist.Binary
