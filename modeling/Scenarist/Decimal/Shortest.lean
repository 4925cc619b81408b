import Scenarist.Decimal.Binary

/-!
# The shortest decimal that reads back

For a finite binary number, the decimal with the **fewest digits** among those that round to
it, and of those the nearest. On each grid of decimals with `n` significant digits only the
two neighbours of the number are candidates, so the first grid on which one of them lies in
the interval of values that round to the number decides.
-/

namespace Scenarist

/-- A decimal number `digits · 10 ^ exponent`. -/
structure Decimal where
  digits : Nat
  exponent : Int
deriving DecidableEq, Repr

namespace Decimal

/-- The decimal digits of a number, most significant first. -/
def digitChars (n : Nat) : List Char := Nat.toDigits 10 n

theorem isDigit_of_mem_digitChars {n : Nat} {c : Char} (h : c ∈ digitChars n) : c.isDigit :=
  Nat.isDigit_of_mem_toDigits (by decide) (by decide) h

/-- The largest `k` with `10 ^ k ≤ num / den`, for a positive quotient. -/
def magnitudeOf (num den : Nat) : Int :=
  if den ≤ num then ((digitChars (num / den)).length : Int) - 1
  else
    let c := (den + num - 1) / num
    let places := (digitChars c).length
    if Nat.pow 10 (places - 1) < c then -(places : Int) else -((places : Int) - 1)

/-- The same decimal without trailing zeros, given a bound on their number. -/
def stripped : Nat → Decimal → Decimal
  | 0, d => d
  | n + 1, d =>
    if d.digits % 10 = 0 && d.digits ≠ 0 then stripped n ⟨d.digits / 10, d.exponent + 1⟩ else d

/-- The exponent of ten of the first digit. -/
def leading (d : Decimal) : Int := d.exponent + (digitChars d.digits).length - 1

end Decimal

namespace Binary

variable {f : BinaryFormat}

/-- The interval of quotients that round to a magnitude, over one denominator: the lower end,
the value, the upper end, the denominator, and whether the ends belong to it. -/
def roundingInterval (x : Binary f) : Nat × Nat × Nat × Nat × Bool :=
  let (m, e) := f.decode x.magnitude
  let atStep := m = Nat.pow 2 f.fractionBits && f.minExponent < e
  let lower := if atStep then 4 * m - 1 else 4 * m - 2
  let scale (n : Nat) := if 0 ≤ e then n * Nat.pow 2 e.toNat else n
  let den := if 0 ≤ e then 4 else 4 * Nat.pow 2 (-e).toNat
  (scale lower, scale (4 * m), scale (4 * m + 2), den, m % 2 == 0)

/-- The point of the grid `10 ^ k` that lies in the rounding interval and is nearest to the
number, if there is one. -/
def gridPoint? (x : Binary f) (k : Int) : Option Nat :=
  let (lo, v, hi, den, closed) := x.roundingInterval
  let up := if 0 ≤ k then 1 else Nat.pow 10 (-k).toNat
  let den := if 0 ≤ k then den * Nat.pow 10 k.toNat else den
  let lo := lo * up
  let v := v * up
  let hi := hi * up
  let inside (n : Nat) : Bool :=
    let p := n * den
    if closed then lo ≤ p && p ≤ hi else lo < p && p < hi
  let below := v / den
  let above := below + 1
  match inside below && below ≠ 0, inside above with
  | true, true =>
    let down := v - below * den
    let rise := above * den - v
    if down < rise then some below
    else if rise < down then some above
    else if below % 2 = 0 then some below else some above
  | true, false => some below
  | false, true => some above
  | false, false => none

/-- The first grid, from `n` significant digits on, that has a point in the interval. -/
def shortestFrom (x : Binary f) (top : Int) (n : Nat) : Nat → Decimal
  | 0 =>
    let k := top - n + 1
    ⟨(x.gridPoint? k).getD 0, k⟩
  | fuel + 1 =>
    let k := top - n + 1
    match x.gridPoint? k with
    | some d => ⟨d, k⟩
    | none => shortestFrom x top (n + 1) fuel

/-- The fewest digits that read back as the finite number, and of those the nearest. -/
def shortest (x : Binary f) : Decimal :=
  if x.magnitude = 0 then ⟨0, 0⟩
  else
    let (num, den) := x.ratio
    Decimal.stripped 400 (x.shortestFrom (Decimal.magnitudeOf num den) 1 20)

end Binary

end Scenarist
