import Scenarist.Proofs.Decimal.Rounding
import Scenarist.Decimal.Notation

/-!
# The Shortest Decimal Reads Back

The decimal that `Binary.shortest` finds for a finite number reads as that number. A grid of
decimals is asked for a point in the interval of quotients that round to the number, coarse grids
first; `gridPoint?` answers with such a point (`gridPoint?_spec`), and on the last grid to be asked
the largest point below the number is close enough to it (`gridPoint?_isSome_of_fine`).

Whether the decimal is written with a point of its own depends on its exponent, and whether one is
added depends on the number. The two agree: a whole number lies on the grid of the whole numbers
itself, so that no finer grid is asked, and a number that is not whole has no whole number in its
interval.

## Main results

* `Binary.shortest_readsAs`: **the shortest decimal of a finite number reads as the number**.
* `Binary.shortest_exponent_iff`: it is a whole multiple of a power of ten exactly if the number is
  whole.
-/

namespace Scenarist

open BinaryFormat

namespace Decimal

/-! ### The first digit -/

theorem pow_length_digitChars_le {n : Nat} (hn : 0 < n) :
    10 ^ ((digitChars n).length - 1) ≤ n := by
  by_contra hlt
  have hpos : 0 < (digitChars n).length := Nat.length_toDigits_pos
  rcases Nat.lt_or_ge 1 (digitChars n).length with h | h
  · have hle := (Nat.length_toDigits_le_iff (b := 10) (by omega) (by omega)).2 (not_le.1 hlt)
    rw [digitChars] at hpos hle h
    omega
  · have hone : (digitChars n).length - 1 = 0 := by omega
    rw [hone] at hlt
    omega

theorem lt_pow_length_digitChars (n : Nat) : n < 10 ^ (digitChars n).length :=
  (Nat.length_toDigits_le_iff (by omega) Nat.length_toDigits_pos).1 le_rfl

/-- The power of ten found for a quotient is at most the quotient. -/
theorem zpow_magnitudeOf_le {num den : Nat} (hnum : 0 < num) (hden : 0 < den) :
    (10 : ℚ) ^ magnitudeOf num den ≤ (num : ℚ) / den := by
  have hpos : (0 : ℚ) < den := by exact_mod_cast hden
  rw [magnitudeOf, le_div_iff₀ hpos]
  split
  · next hle =>
    have hquotient : 0 < num / den := Nat.div_pos hle hden
    have hlength : 0 < (digitChars (num / den)).length := Nat.length_toDigits_pos
    have hcast : ((digitChars (num / den)).length : Int) - 1 =
        (((digitChars (num / den)).length - 1 : Nat) : Int) := by omega
    rw [hcast, zpow_natCast]
    have hle := (Nat.mul_le_mul_right den (pow_length_digitChars_le hquotient)).trans
      (Nat.div_mul_le_self num den)
    exact_mod_cast hle
  · have hceil : den ≤ num * ((den + num - 1) / num) := by
      have hdiv := Nat.div_add_mod (den + num - 1) num
      have hmod := Nat.mod_lt (den + num - 1) hnum
      omega
    have hneg (k : Nat) (hk : (den + num - 1) / num ≤ 10 ^ k) :
        (10 : ℚ) ^ (-(k : Int)) * den ≤ num := by
      rw [zpow_neg, zpow_natCast, inv_mul_le_iff₀ (by positivity), mul_comm]
      exact_mod_cast hceil.trans (Nat.mul_le_mul_left num hk)
    dsimp only
    split
    · exact hneg _ (lt_pow_length_digitChars _).le
    · next hle =>
      have hplaces : 0 < (digitChars ((den + num - 1) / num)).length := Nat.length_toDigits_pos
      have hcast : -(((digitChars ((den + num - 1) / num)).length : Int) - 1) =
          -(((digitChars ((den + num - 1) / num)).length - 1 : Nat) : Int) := by omega
      rw [hcast]
      exact hneg _ (not_lt.1 hle)

theorem magnitudeOf_nonneg {num den : Nat} (h : den ≤ num) : 0 ≤ magnitudeOf num den := by
  have hlength : 0 < (digitChars (num / den)).length := Nat.length_toDigits_pos
  rw [magnitudeOf, if_pos h]
  omega

/-! ### Trailing zeros -/

/-- The value of a decimal. -/
def value (d : Decimal) : ℚ := d.digits * (10 : ℚ) ^ d.exponent

/-- Taking away trailing zeros keeps the value. -/
theorem stripped_spec (n : Nat) (d : Decimal) :
    (stripped n d).value = d.value ∧ d.exponent ≤ (stripped n d).exponent ∧
      (d.digits ≠ 0 → (stripped n d).digits ≠ 0) := by
  induction n generalizing d with
  | zero => exact ⟨rfl, le_rfl, id⟩
  | succ n ih =>
      rw [stripped]
      split
      · next hzero =>
        simp only [Bool.and_eq_true, decide_eq_true_eq, ne_eq] at hzero
        obtain ⟨hvalue, hexponent, hdigits⟩ := ih ⟨d.digits / 10, d.exponent + 1⟩
        refine ⟨?_, by simp only at hexponent; omega, fun _ => hdigits (by simp only; omega)⟩
        have hten : d.digits = d.digits / 10 * 10 := by omega
        rw [hvalue, value, value, zpow_add_one₀ (by norm_num)]
        conv_rhs => rw [hten]
        push_cast
        ring
      · exact ⟨rfl, le_rfl, id⟩

end Decimal

namespace Binary

variable {f : BinaryFormat} {x : Binary f}

/-! ### Grids -/

/-- The quotient **rounds to** the number, which is not zero. -/
def RoundsTo (x : Binary f) (v : ℚ) : Prop :=
  Rounds f (f.decode x.magnitude).1 (f.decode x.magnitude).2 v

/-- The absolute value of a finite number. -/
def absolute (x : Binary f) : ℚ := (f.decode x.magnitude).1 * (2 : ℚ) ^ (f.decode x.magnitude).2

theorem decode_pos (h : x.magnitude ≠ 0) : 0 < (f.decode x.magnitude).1 := by
  obtain ⟨-, -, hle, heq⟩ := decodes_decode f x.magnitude
  refine Nat.pos_of_ne_zero fun hm => ?_
  rw [hm] at hle heq
  rcases hle with he | hle
  · rw [he] at heq
    simp at heq
    exact h heq
  · exact absurd (Nat.two_pow_pos f.fractionBits) (by omega)

theorem absolute_pos (h : x.magnitude ≠ 0) : 0 < x.absolute := by
  have hm : (0 : ℚ) < (f.decode x.magnitude).1 := by exact_mod_cast decode_pos h
  exact mul_pos hm (zpow_pos (by norm_num) _)

/-- What the interval of `m · 2 ^ e` consists of. -/
structure IntervalOf (f : BinaryFormat) (m : Nat) (e : Int) (lo v hi den : Nat) (closed : Bool) :
    Prop where
  den_pos : 0 < den
  lo_eq : (lo : ℚ) / den = (m - f.reach m e) * (2 : ℚ) ^ e
  v_eq : (v : ℚ) / den = m * (2 : ℚ) ^ e
  hi_eq : (hi : ℚ) / den = (m + 1 / 2) * (2 : ℚ) ^ e
  closed_eq : closed = (m % 2 == 0)

/-- A number of quarters of `2 ^ e`, as a quotient. -/
theorem quarters_eq (e : Int) (n : Nat) :
    (((if 0 ≤ e then n * Nat.pow 2 e.toNat else n : Nat) : ℚ) /
      ((if 0 ≤ e then 4 else 4 * Nat.pow 2 (-e).toNat : Nat) : ℚ)) = (n : ℚ) / 4 * (2 : ℚ) ^ e := by
  have htwo : ((2 : Nat) : ℚ) = 2 := rfl
  split
  · next he =>
    rw [← htwo, zpow_of_nonneg 2 he]
    push_cast
    ring
  · next he =>
    rw [← htwo, zpow_of_neg 2 he]
    push_cast
    ring

theorem roundingInterval_spec (h : x.magnitude ≠ 0) :
    ∃ lo v hi den closed, x.roundingInterval = (lo, v, hi, den, closed) ∧
      IntervalOf f (f.decode x.magnitude).1 (f.decode x.magnitude).2 lo v hi den closed := by
  have hm := decode_pos h
  rw [roundingInterval]
  generalize f.decode x.magnitude = d at hm ⊢
  obtain ⟨m, e⟩ := d
  dsimp only at hm ⊢
  refine ⟨_, _, _, _, _, rfl, ?_, ?_, ?_, ?_, rfl⟩
  · split
    · omega
    · exact Nat.mul_pos (by omega) (Nat.two_pow_pos _)
  · rw [quarters_eq, reach]
    congr 1
    by_cases hstep : m = Nat.pow 2 f.fractionBits ∧ f.minExponent < e
    · rw [if_pos (by simpa using hstep), if_pos (by simpa using hstep), Nat.cast_sub (by omega)]
      push_cast
      ring
    · rw [if_neg (by simpa using hstep), if_neg (by simpa using hstep), Nat.cast_sub (by omega)]
      push_cast
      ring
  · rw [quarters_eq]
    push_cast
    ring
  · rw [quarters_eq]
    push_cast
    ring

/-- A quotient is at most a point of a grid, said in whole numbers. -/
theorem div_le_grid_iff {a den : Nat} (hden : 0 < den) (k : Int) (n : Nat) :
    a * (if 0 ≤ k then 1 else Nat.pow 10 (-k).toNat) ≤
        n * (if 0 ≤ k then den * Nat.pow 10 k.toNat else den) ↔
      (a : ℚ) / den ≤ n * (10 : ℚ) ^ k := by
  have hpos : (0 : ℚ) < den := by exact_mod_cast hden
  have hten : ((10 : Nat) : ℚ) = 10 := rfl
  rw [div_le_iff₀ hpos]
  split
  · next hk =>
    rw [← hten, zpow_of_nonneg 10 hk, Nat.mul_one, mul_assoc, ← Nat.cast_mul, ← Nat.cast_mul,
      Nat.cast_le, Nat.mul_comm den]
  · next hk =>
    have hscale : (0 : ℚ) < ((Nat.pow 10 (-k).toNat : Nat) : ℚ) := by
      rw [Nat.pow_eq]
      positivity
    rw [← hten, zpow_of_neg 10 hk, mul_right_comm, ← div_eq_mul_inv, le_div_iff₀ hscale,
      ← Nat.cast_mul, ← Nat.cast_mul, Nat.cast_le]

theorem grid_le_div_iff {a den : Nat} (hden : 0 < den) (k : Int) (n : Nat) :
    n * (if 0 ≤ k then den * Nat.pow 10 k.toNat else den) ≤
        a * (if 0 ≤ k then 1 else Nat.pow 10 (-k).toNat) ↔
      n * (10 : ℚ) ^ k ≤ (a : ℚ) / den := by
  have hpos : (0 : ℚ) < den := by exact_mod_cast hden
  have hten : ((10 : Nat) : ℚ) = 10 := rfl
  rw [le_div_iff₀ hpos]
  split
  · next hk =>
    rw [← hten, zpow_of_nonneg 10 hk, Nat.mul_one, mul_assoc, ← Nat.cast_mul, ← Nat.cast_mul,
      Nat.cast_le, Nat.mul_comm den]
  · next hk =>
    have hscale : (0 : ℚ) < ((Nat.pow 10 (-k).toNat : Nat) : ℚ) := by
      rw [Nat.pow_eq]
      positivity
    rw [← hten, zpow_of_neg 10 hk, mul_right_comm, ← div_eq_mul_inv, div_le_iff₀ hscale,
      ← Nat.cast_mul, ← Nat.cast_mul, Nat.cast_le]

/-- The test for a point of the grid. -/
def inside (lo hi den : Nat) (closed : Bool) (k : Int) (n : Nat) : Bool :=
  let up := if 0 ≤ k then 1 else Nat.pow 10 (-k).toNat
  let p := n * (if 0 ≤ k then den * Nat.pow 10 k.toNat else den)
  if closed then lo * up ≤ p && p ≤ hi * up else lo * up < p && p < hi * up

/-- The test finds the points that round to the number. -/
theorem inside_iff {m : Nat} {e : Int} {lo v hi den : Nat} {closed : Bool}
    (h : IntervalOf f m e lo v hi den closed) (k : Int) (n : Nat) :
    inside lo hi den closed k n = true ↔ Rounds f m e (n * (10 : ℚ) ^ k) := by
  have hlow := div_le_grid_iff (a := lo) h.den_pos k n
  have hhigh := grid_le_div_iff (a := hi) h.den_pos k n
  have hlow' := not_congr (grid_le_div_iff (a := lo) h.den_pos k n)
  have hhigh' := not_congr (div_le_grid_iff (a := hi) h.den_pos k n)
  rw [not_le, not_le] at hlow' hhigh'
  rw [h.lo_eq] at hlow hlow'
  rw [h.hi_eq] at hhigh hhigh'
  rw [inside, h.closed_eq]
  by_cases hm : m % 2 = 0
  · simp only [hm, beq_self_eq_true, if_true, Bool.and_eq_true, decide_eq_true_eq]
    rw [hlow, hhigh]
    exact ⟨fun ⟨h₁, h₂⟩ => ⟨h₁, h₂, .inl hm⟩, fun h => ⟨h.low, h.high⟩⟩
  · simp only [beq_eq_false_iff_ne.2 hm, Bool.false_eq_true, if_false, Bool.and_eq_true,
      decide_eq_true_eq]
    rw [hlow', hhigh']
    exact ⟨fun ⟨h₁, h₂⟩ => ⟨h₁.le, h₂.le, .inr ⟨h₁, h₂⟩⟩, fun h => h.tie.resolve_left hm⟩

/-- Two candidates are told apart by comparisons, and one of them is taken. -/
theorem of_choice {p q r : Prop} [Decidable p] [Decidable q] [Decidable r] {a b : Nat}
    {o : Option Nat}
    (h : (if p then some a else if q then some b else if r then some a else some b) = o) :
    o = some a ∨ o = some b := by
  split at h
  · exact .inl h.symm
  · split at h
    · exact .inr h.symm
    · split at h
      · exact .inl h.symm
      · exact .inr h.symm

/-- **A point found on a grid** rounds to the number and is not zero. -/
theorem gridPoint?_spec (hx : x.magnitude ≠ 0) {k : Int} {n : Nat} (hn : x.gridPoint? k = some n) :
    n ≠ 0 ∧ x.RoundsTo (n * (10 : ℚ) ^ k) := by
  obtain ⟨lo, v, hi, den, closed, hinterval, h⟩ := roundingInterval_spec hx
  rw [gridPoint?, hinterval] at hn
  dsimp only at hn
  generalize v * (if 0 ≤ k then 1 else Nat.pow 10 (-k).toNat) /
    (if 0 ≤ k then den * Nat.pow 10 k.toNat else den) = below at hn
  have hbelow (ht : (inside lo hi den closed k below && decide (below ≠ 0)) = true) :
      below ≠ 0 ∧ x.RoundsTo (below * (10 : ℚ) ^ k) := by
    rw [Bool.and_eq_true, decide_eq_true_eq] at ht
    exact ⟨ht.2, (inside_iff h k below).1 ht.1⟩
  have habove (ht : inside lo hi den closed k (below + 1) = true) :
      below + 1 ≠ 0 ∧ x.RoundsTo ((below + 1 : Nat) * (10 : ℚ) ^ k) :=
    ⟨Nat.succ_ne_zero below, (inside_iff h k (below + 1)).1 ht⟩
  split at hn
  · next ht ht' =>
    rcases of_choice hn with hchoice | hchoice
    · exact Option.some.inj hchoice ▸ hbelow ht
    · exact Option.some.inj hchoice ▸ habove ht'
  · next ht _ => exact Option.some.inj hn ▸ hbelow ht
  · next _ ht' => exact Option.some.inj hn ▸ habove ht'
  · cases hn

/-- A point is found if the one at or below the number rounds to it. -/
theorem gridPoint?_isSome (hx : x.magnitude ≠ 0) {k : Int}
    (h : ∀ n : Nat, n * (10 : ℚ) ^ k ≤ x.absolute → x.absolute < (n + 1 : Nat) * (10 : ℚ) ^ k →
      n ≠ 0 ∧ x.RoundsTo (n * (10 : ℚ) ^ k)) : (x.gridPoint? k).isSome = true := by
  obtain ⟨lo, v, hi, den, closed, hinterval, hends⟩ := roundingInterval_spec hx
  have hscale : 0 < (if 0 ≤ k then den * Nat.pow 10 k.toNat else den) := by
    split
    · exact Nat.mul_pos hends.den_pos (Nat.pow_pos (by omega))
    · exact hends.den_pos
  rw [gridPoint?, hinterval]
  dsimp only
  obtain ⟨n, hn⟩ : ∃ n, v * (if 0 ≤ k then 1 else Nat.pow 10 (-k).toNat) /
    (if 0 ≤ k then den * Nat.pow 10 k.toNat else den) = n := ⟨_, rfl⟩
  obtain ⟨hne, hrounds⟩ : n ≠ 0 ∧ x.RoundsTo (n * (10 : ℚ) ^ k) := by
    rw [absolute, ← hends.v_eq] at h
    refine h n ((grid_le_div_iff hends.den_pos k n).1 (hn ▸ Nat.div_mul_le_self _ _))
      (not_le.1 fun hge => ?_)
    rw [← grid_le_div_iff hends.den_pos, ← hn] at hge
    have hlt := Nat.lt_div_mul_add hscale (a := v * (if 0 ≤ k then 1 else Nat.pow 10 (-k).toNat))
    rw [Nat.succ_mul] at hge
    omega
  rw [hn]
  have hinside : (inside lo hi den closed k n && decide (n ≠ 0)) = true := by
    rw [Bool.and_eq_true, decide_eq_true_eq]
    exact ⟨(inside_iff hends k n).2 hrounds, hne⟩
  split
  · rw [Option.isSome_iff_ne_none]
    intro hnone
    rcases of_choice hnone with h | h <;> cases h
  · rfl
  · rfl
  · next hfalse _ => exact absurd hinside (by rw [inside, hfalse]; exact Bool.false_ne_true)

/-! ### The first grid with a point -/

/-- A whole number lies on the grid of the whole numbers. -/
theorem isWhole_iff : x.isWhole = true ↔ ∃ n : Nat, x.absolute = n := by
  obtain ⟨hden, hvalue⟩ := x.ratio_eq
  have hpos : (x.ratio.2 : ℚ) ≠ 0 := by exact_mod_cast hden.ne'
  rw [isWhole, beq_iff_eq, ← Nat.dvd_iff_mod_eq_zero]
  rw [absolute, ← hvalue]
  constructor
  · rintro ⟨n, hn⟩
    refine ⟨n, ?_⟩
    rw [hn, Nat.cast_mul, mul_div_cancel_left₀ _ hpos]
  · rintro ⟨n, hn⟩
    rw [div_eq_iff hpos] at hn
    exact ⟨n, by rw [Nat.mul_comm]; exact_mod_cast hn⟩

/-- **A grid that is fine enough has a point**: twenty places after the first digit are, if eight
times the units of a number are fewer than those of the grid. -/
theorem gridPoint?_isSome_of_fine (hx : x.magnitude ≠ 0)
    (hbits : 2 ^ (f.fractionBits + 3) ≤ 10 ^ 20)
    {k : Int} (hk : (10 : ℚ) ^ (k + 20) ≤ x.absolute) : (x.gridPoint? k).isSome = true := by
  have hgrid : (0 : ℚ) < (10 : ℚ) ^ k := zpow_pos (by norm_num) k
  have hscale : (0 : ℚ) < (2 : ℚ) ^ (f.decode x.magnitude).2 := zpow_pos (by norm_num) _
  have hk' : (10 : ℚ) ^ k * 10 ^ 20 ≤ x.absolute := by
    rw [zpow_add₀ (by norm_num)] at hk
    exact_mod_cast hk
  -- The steps of the grid are smaller than the part of the interval below the number.
  have hfine : (10 : ℚ) ^ k < 1 / 4 * (2 : ℚ) ^ (f.decode x.magnitude).2 := by
    have hm : ((f.decode x.magnitude).1 : ℚ) + 1 ≤ 2 ^ (f.fractionBits + 1) := by
      exact_mod_cast (decodes_decode f x.magnitude).lt
    have hbits' : (2 : ℚ) ^ (f.fractionBits + 1) * 4 ≤ 10 ^ 20 := by
      have hcast : (2 : ℚ) ^ (f.fractionBits + 3) ≤ 10 ^ 20 := by exact_mod_cast hbits
      rw [pow_add] at hcast ⊢
      linarith
    have habsolute : x.absolute < 2 ^ (f.fractionBits + 1) * (2 : ℚ) ^ (f.decode x.magnitude).2 :=
      mul_lt_mul_of_pos_right (by linarith) hscale
    nlinarith
  have hreach : 1 / 4 ≤ f.reach (f.decode x.magnitude).1 (f.decode x.magnitude).2 := by
    rw [reach]
    split <;> norm_num
  refine gridPoint?_isSome hx fun n hle hlt => ?_
  have hlow : ((f.decode x.magnitude).1 -
      f.reach (f.decode x.magnitude).1 (f.decode x.magnitude).2) *
        (2 : ℚ) ^ (f.decode x.magnitude).2 < n * (10 : ℚ) ^ k := by
    have hquarter := mul_le_mul_of_nonneg_right hreach hscale.le
    rw [absolute] at hlt
    push_cast at hlt
    linarith
  have hhigh : (n : ℚ) * (10 : ℚ) ^ k <
      ((f.decode x.magnitude).1 + 1 / 2) * (2 : ℚ) ^ (f.decode x.magnitude).2 := by
    rw [absolute] at hle
    linarith
  refine ⟨?_, hlow.le, hhigh.le, .inr ⟨hlow, hhigh⟩⟩
  rintro rfl
  push_cast at hlt
  linarith

/-- The search ends with a point, which is on the last grid or a coarser one. -/
theorem shortestFrom_spec (hx : x.magnitude ≠ 0) {last top : Int}
    (hlast : (x.gridPoint? last).isSome = true) (n fuel : Nat) (hn : last ≤ top - n + 1)
    (hfuel : top - n + 1 ≤ last + fuel) :
    last ≤ (x.shortestFrom top n fuel).exponent ∧ (x.shortestFrom top n fuel).digits ≠ 0 ∧
      x.RoundsTo (x.shortestFrom top n fuel).value := by
  induction fuel generalizing n with
  | zero =>
      obtain rfl : last = top - n + 1 := by omega
      obtain ⟨d, hd⟩ := Option.isSome_iff_exists.1 hlast
      rw [shortestFrom, hd]
      exact ⟨le_rfl, gridPoint?_spec hx hd⟩
  | succ fuel ih =>
      rw [shortestFrom]
      split
      · next d hd => exact ⟨hn, gridPoint?_spec hx hd⟩
      · next hnone =>
        have hne : last ≠ top - n + 1 := by
          rintro rfl
          rw [hnone] at hlast
          cases hlast
        exact ih (n + 1) (by push_cast; omega) (by push_cast; omega)

/-- A number whose interval holds a whole number is whole. -/
theorem isWhole_of_roundsTo {n : Nat} (h : x.RoundsTo n) : x.isWhole = true := by
  rw [isWhole_iff, absolute]
  obtain ⟨hlow, hhigh, -⟩ := h
  have hreach := f.reach_le (f.decode x.magnitude).1 (f.decode x.magnitude).2
  generalize (f.decode x.magnitude).1 = m at *
  generalize (f.decode x.magnitude).2 = e at *
  have htwo : ((2 : Nat) : ℚ) = 2 := rfl
  by_cases he : 0 ≤ e
  · refine ⟨m * Nat.pow 2 e.toNat, ?_⟩
    rw [← htwo, zpow_of_nonneg 2 he, Nat.cast_mul]
  · refine ⟨n, ?_⟩
    obtain ⟨j, hj⟩ : ∃ j : Nat, -e = j := Int.eq_ofNat_of_zero_le (by omega)
    have hscale : (0 : ℚ) < (2 : ℚ) ^ e := zpow_pos (by norm_num) e
    -- In units of the last place the whole number is at most a half from the number.
    have hunits : (n : ℚ) = (n * 2 ^ j : Nat) * (2 : ℚ) ^ e := by
      rw [show e = -(j : Int) by omega, zpow_neg, zpow_natCast]
      push_cast
      field_simp
    rw [hunits, mul_le_mul_iff_left₀ hscale] at hlow hhigh
    have hge : m ≤ n * 2 ^ j := by
      have hlt : (m : ℚ) < (n * 2 ^ j : Nat) + 1 := by linarith
      have hlt' : m < n * 2 ^ j + 1 := by exact_mod_cast hlt
      omega
    have hle : n * 2 ^ j ≤ m := by
      have hlt : ((n * 2 ^ j : Nat) : ℚ) < m + 1 := by linarith
      have hlt' : n * 2 ^ j < m + 1 := by exact_mod_cast hlt
      omega
    rw [hunits, le_antisymm hge hle]

/-! ### The shortest decimal -/

/-- There is a last grid to be asked: that of the whole numbers, or one with twenty more places than
that of the first digit. -/
theorem exists_last_grid (hx : x.magnitude ≠ 0) (hbits : 2 ^ (f.fractionBits + 3) ≤ 10 ^ 20)
    {top : Int} (htop : (10 : ℚ) ^ top ≤ x.absolute) (hone : 1 ≤ x.absolute → 0 ≤ top) :
    ∃ last, (x.gridPoint? last).isSome = true ∧ last ≤ top ∧ top ≤ last + 20 ∧
      (x.isWhole = true → 0 ≤ last) := by
  have hdefault : (x.gridPoint? (top - 20)).isSome = true :=
    gridPoint?_isSome_of_fine hx hbits (by rwa [sub_add_cancel])
  by_cases hwhole : x.isWhole = true ∧ top ≤ 20
  · obtain ⟨n, hn⟩ := isWhole_iff.1 hwhole.1
    have hpos : n ≠ 0 := by
      rintro rfl
      exact (absolute_pos hx).ne' (by rw [hn, Nat.cast_zero])
    have hnonneg : 0 ≤ top := by
      refine hone ?_
      rw [hn]
      exact_mod_cast Nat.pos_of_ne_zero hpos
    refine ⟨0, gridPoint?_isSome hx fun d hd hd' => ?_, hnonneg, by omega, fun _ => le_rfl⟩
    rw [hn, zpow_zero, mul_one] at hd hd'
    have hle : d ≤ n := by exact_mod_cast hd
    have hlt : n < d + 1 := by exact_mod_cast hd'
    obtain rfl : d = n := by omega
    rw [zpow_zero, mul_one, ← hn]
    exact ⟨hpos, rounds_self f _ _⟩
  · refine ⟨top - 20, hdefault, by omega, by omega, fun h => ?_⟩
    have hfar : ¬ top ≤ 20 := fun hle => hwhole ⟨h, hle⟩
    omega

/-- The shortest decimal of a number that is not zero. -/
theorem shortest_spec (hx : x.magnitude ≠ 0) (hbits : 2 ^ (f.fractionBits + 3) ≤ 10 ^ 20) :
    x.shortest.digits ≠ 0 ∧ x.RoundsTo x.shortest.value ∧
      (x.isWhole = true → 0 ≤ x.shortest.exponent) := by
  obtain ⟨hden, hvalue⟩ := x.ratio_eq
  change (x.ratio.1 : ℚ) / x.ratio.2 = x.absolute at hvalue
  have hnum : 0 < x.ratio.1 := by
    refine Nat.pos_of_ne_zero fun hzero => (absolute_pos hx).ne' ?_
    rw [← hvalue, hzero, Nat.cast_zero, zero_div]
  obtain ⟨top, htop⟩ : ∃ top, top = Decimal.magnitudeOf x.ratio.1 x.ratio.2 := ⟨_, rfl⟩
  have hle : (10 : ℚ) ^ top ≤ x.absolute := by
    rw [htop, ← hvalue]
    exact Decimal.zpow_magnitudeOf_le hnum hden
  have hone (h : 1 ≤ x.absolute) : 0 ≤ top := by
    rw [← hvalue, one_le_div (by exact_mod_cast hden)] at h
    rw [htop]
    exact Decimal.magnitudeOf_nonneg (by exact_mod_cast h)
  obtain ⟨last, hlast, hge, hfuel, hwhole⟩ := exists_last_grid hx hbits hle hone
  have hstart : last ≤ top - (1 : Nat) + 1 := by push_cast; omega
  have hend : top - (1 : Nat) + 1 ≤ last + (20 : Nat) := by push_cast; omega
  obtain ⟨hexponent, hdigits, hrounds⟩ := shortestFrom_spec hx hlast 1 20 hstart hend
  obtain ⟨hsame, hgrows, hkeeps⟩ := Decimal.stripped_spec 400 (x.shortestFrom top 1 20)
  have hshortest : x.shortest = Decimal.stripped 400 (x.shortestFrom top 1 20) := by
    rw [shortest, if_neg hx, htop]
  rw [hshortest, hsame]
  exact ⟨hkeeps hdigits, hrounds, fun h => (hwhole h).trans (hexponent.trans hgrows)⟩

/-- **The shortest decimal reads back.** -/
theorem shortest_readsAs (x : Binary f) (hbits : 2 ^ (f.fractionBits + 3) ≤ 10 ^ 20) :
    x.ReadsAs (x.shortest.digits * (10 : ℚ) ^ x.shortest.exponent) := by
  rw [ReadsAs]
  split
  · next hzero => rw [shortest, if_pos hzero, Nat.cast_zero, zero_mul]
  · next hne => exact (shortest_spec hne hbits).2.1

/-- **The shortest decimal of a number has no places after the point exactly if the number is
whole.** -/
theorem shortest_exponent_iff (x : Binary f) (hbits : 2 ^ (f.fractionBits + 3) ≤ 10 ^ 20) :
    0 ≤ x.shortest.exponent ↔ x.isWhole = true := by
  by_cases hx : x.magnitude = 0
  · have hwhole : x.isWhole = true := by
      refine isWhole_iff.2 ⟨0, ?_⟩
      have heq := (decodes_decode f x.magnitude).eq
      have hm : (f.decode x.magnitude).1 = 0 := by omega
      rw [absolute, hm, Nat.cast_zero, zero_mul]
    rw [shortest, if_pos hx]
    exact ⟨fun _ => hwhole, fun _ => le_rfl⟩
  · obtain ⟨-, hrounds, hwhole⟩ := shortest_spec hx hbits
    refine ⟨fun hexponent => ?_, hwhole⟩
    have hten : ((10 : Nat) : ℚ) = 10 := rfl
    rw [Decimal.value, ← hten, zpow_of_nonneg 10 hexponent, ← Nat.cast_mul] at hrounds
    exact isWhole_of_roundsTo hrounds

end Binary

end Scenarist
