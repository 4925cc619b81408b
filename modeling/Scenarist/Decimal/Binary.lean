/-!
# Binary floating point, exactly

A binary floating-point number is a sign and a **magnitude**: the biased exponent and the
fraction read as one natural number, so that larger magnitudes are larger values and the
neighbours of a number are its magnitude plus or minus one. Every operation goes through
exact quotients of natural numbers and rounds once, to the nearest number, a tie to the even
magnitude.
-/

namespace Scenarist

/-- The widths of a binary floating-point format. -/
structure BinaryFormat where
  fractionBits : Nat
  exponentBits : Nat
deriving DecidableEq, Repr

namespace BinaryFormat

/-- The 64-bit interchange format. -/
def double : BinaryFormat := ⟨52, 11⟩

/-- The 32-bit interchange format. -/
def single : BinaryFormat := ⟨23, 8⟩

/-- The exponent of the unit in the last place of the smallest numbers. -/
def minExponent (f : BinaryFormat) : Int :=
  2 - (Nat.pow 2 (f.exponentBits - 1) : Int) - f.fractionBits

/-- The magnitude of infinity; every larger one is no number. -/
def infinity (f : BinaryFormat) : Nat := (Nat.pow 2 f.exponentBits - 1) * Nat.pow 2 f.fractionBits

/-- A finite magnitude as `m · 2 ^ e`. -/
def decode (f : BinaryFormat) (magnitude : Nat) : Nat × Int :=
  let unit := Nat.pow 2 f.fractionBits
  let biased := magnitude / unit
  if biased = 0 then (magnitude, f.minExponent)
  else (magnitude % unit + unit, f.minExponent + (biased - 1 : Nat))

/-- `num / den` rounded to a whole number, a tie to the even one. -/
def roundQuotient (num den : Nat) : Nat :=
  let q := num / den
  let r := num % den
  if 2 * r < den then q
  else if den < 2 * r then q + 1
  else if q % 2 = 0 then q else q + 1

/-- The exponent of the last place of the number nearest to `num / den`. -/
def lastPlace (f : BinaryFormat) (num den : Nat) : Int :=
  let k : Int := (num.log2 : Int) - den.log2 - f.fractionBits
  let full : Bool :=
    if 0 ≤ k then den * Nat.pow 2 k.toNat * Nat.pow 2 f.fractionBits ≤ num
    else den * Nat.pow 2 f.fractionBits ≤ num * Nat.pow 2 (-k).toNat
  max f.minExponent (if full then k else k - 1)

/-- The magnitude nearest to `num / den`; quotients beyond the largest number go to infinity. -/
def nearest (f : BinaryFormat) (num den : Nat) : Nat :=
  if num = 0 then 0
  else
    let e := f.lastPlace num den
    let q := if 0 ≤ e then roundQuotient num (den * Nat.pow 2 e.toNat)
      else roundQuotient (num * Nat.pow 2 (-e).toNat) den
    min f.infinity ((e - f.minExponent).toNat * Nat.pow 2 f.fractionBits + q)

end BinaryFormat

/-- A number of the format `f`: a sign, and the exponent and fraction as one number. -/
structure Binary (f : BinaryFormat) where
  negative : Bool
  magnitude : Nat
deriving DecidableEq, Repr

/-- The 64-bit numbers. -/
abbrev Double := Binary .double

/-- The 32-bit numbers. -/
abbrev Single := Binary .single

namespace Binary

variable {f : BinaryFormat}

/-- Zero, with its sign. -/
def zero (negative : Bool) : Binary f := ⟨negative, 0⟩

/-- The number is neither infinite nor undefined. -/
def isFinite (x : Binary f) : Bool := x.magnitude < f.infinity

/-- The number is infinite. -/
def isInfinite (x : Binary f) : Bool := x.magnitude == f.infinity

/-- The number is undefined. -/
def isUndefined (x : Binary f) : Bool := f.infinity < x.magnitude

/-- The absolute value of a finite number as a quotient. -/
def ratio (x : Binary f) : Nat × Nat :=
  let (m, e) := f.decode x.magnitude
  if 0 ≤ e then (m * Nat.pow 2 e.toNat, 1) else (m, Nat.pow 2 (-e).toNat)

/-- The number nearest to `± num / den`. -/
def ofRatio (negative : Bool) (num den : Nat) : Binary f := ⟨negative, f.nearest num den⟩

/-- The number nearest to a natural number. -/
def ofNat (n : Nat) : Binary f := ofRatio false n 1

/-- The number nearest to `± digits · 10 ^ exponent`. -/
def ofDecimal (negative : Bool) (digits : Nat) (exponent : Int) : Binary f :=
  if 0 ≤ exponent then ofRatio negative (digits * Nat.pow 10 exponent.toNat) 1
  else ofRatio negative digits (Nat.pow 10 (-exponent).toNat)

/-- The sum of two finite numbers that are not negative, rounded. -/
def add (x y : Binary f) : Binary f :=
  let (a, b) := x.ratio
  let (c, d) := y.ratio
  ofRatio false (a * d + c * b) (b * d)

/-- The product of two finite numbers, rounded. -/
def mul (x y : Binary f) : Binary f :=
  let (a, b) := x.ratio
  let (c, d) := y.ratio
  ofRatio (x.negative != y.negative) (a * c) (b * d)

/-- The quotient of two finite numbers, the divisor not zero, rounded. -/
def div (x y : Binary f) : Binary f :=
  let (a, b) := x.ratio
  let (c, d) := y.ratio
  ofRatio (x.negative != y.negative) (a * d) (b * c)

/-- The number of another format nearest to this one. -/
def convert {g : BinaryFormat} (x : Binary f) : Binary g :=
  if x.isUndefined then ⟨x.negative, g.infinity + 1⟩
  else if x.isInfinite then ⟨x.negative, g.infinity⟩
  else
    let (num, den) := x.ratio
    ofRatio x.negative num den

/-- The number is a whole number. -/
def isWhole (x : Binary f) : Bool :=
  let (num, den) := x.ratio
  num % den == 0

end Binary

end Scenarist
