/-!
# Punycode

The form of a label of a domain that has characters beyond ASCII: the ASCII characters as they
are, and then, in the order of their code points, the positions of the others as differences. A
difference is written with digits of base 36, whose weights adapt to the differences before.
-/

namespace Scenarist.Url.Punycode

/-- The digit of a number below 36. -/
def digit (d : Nat) : Char := Char.ofNat (if d < 26 then 97 + d else 22 + d)

/-- The threshold of the digit at position `k`. -/
def threshold (k bias : Nat) : Nat :=
  if k ≤ bias then 1 else if bias + 26 ≤ k then 26 else k - bias

/-- Scales a difference down until it is small, counting the position. -/
def scaled (delta k : Nat) : Nat × Nat :=
  if 455 < delta then scaled (delta / 35) (k + 36) else (delta, k)
termination_by delta
decreasing_by omega

/-- The bias after a difference, `count` characters having been written. -/
def adapted (delta count : Nat) (first : Bool) : Nat :=
  let d := if first then delta / 700 else delta / 2
  let (d, k) := scaled (d + d / count) 0
  k + 36 * d / (d + 38)

/-- The digits of a difference. -/
def digits (bias : Nat) : Nat → Nat → Nat → List Char
  | 0, _, q => [digit q]
  | fuel + 1, k, q =>
    let t := threshold k bias
    if q < t then [digit q]
    else digit (t + (q - t) % (36 - t)) :: digits bias fuel (k + 36) ((q - t) / (36 - t))

/-- The state of the encoding: what is written, the difference so far, the bias, and the number of
characters that have been dealt with. -/
structure State where
  written : List Char
  delta : Nat
  bias : Nat
  done : Nat

/-- Passes over one character while the positions of the code point `n` are written. -/
def pass (basic n : Nat) (s : State) (c : Char) : State :=
  if c.toNat < n then { s with delta := s.delta + 1 }
  else if c.toNat = n then
    ⟨s.written ++ digits s.bias 40 36 s.delta, 0, adapted s.delta (s.done + 1) (s.done = basic),
      s.done + 1⟩
  else s

/-- Writes the positions of the given code points, which ascend; `n` is the first that could
come. -/
def passes (cs : List Char) (basic : Nat) : Nat → List Nat → State → State
  | _, [], s => s
  | n, m :: ms, s =>
    let s := { s with delta := s.delta + (m - n) * (s.done + 1) }
    let s := cs.foldl (pass basic m) s
    passes cs basic (m + 1) ms { s with delta := s.delta + 1 }

/-- The label in its ASCII form, without the mark in front of it. -/
def encode (cs : List Char) : List Char :=
  let basic := cs.filter fun c => c.toNat < 128
  let others := ((cs.filter fun c => 128 ≤ c.toNat).map Char.toNat).mergeSort.eraseDups
  let s := passes cs basic.length 128 others ⟨[], 0, 72, basic.length⟩
  (if basic.isEmpty then [] else basic ++ ['-']) ++ s.written

end Scenarist.Url.Punycode
