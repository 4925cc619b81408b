import Mathlib.Algebra.Order.Field.Basic
import Mathlib.Algebra.Order.Field.Rat
import Mathlib.Tactic.FieldSimp
import Mathlib.Tactic.Linarith
import Mathlib.Tactic.Positivity
import Mathlib.Tactic.Ring
import Scenarist.Decimal.Binary

/-!
# Rounding to a Binary Number

Which quotients a binary number is the nearest one of. A positive number is `m · 2 ^ e`
(`Decodes`), and the quotients that round to it (`Rounds`) are those not further away than half
the way to its neighbours, the ends included if `m` is even. Below a power of two the neighbours
are closer to each other, so there the interval reaches half as far.

A quotient below a power of two has its last place one below that of the power it may round to;
apart from that the last place of a quotient is that of the number it rounds to, and the units of
the last place are counted by rounding to a whole number.

## Main results

* `nearest_eq`: **a quotient that rounds to a finite number has it for its nearest number**.
* `Binary.ofDecimal_eq`: the same for a decimal that reads as a number, zero included.
* `Binary.ratio_convert`: widening a finite number keeps its value.
* `Binary.convert_convert`: **narrowing undoes widening**.
-/

namespace Scenarist.BinaryFormat

/-! ### Whole numbers -/

/-- A whole number that is at most a half away from a quotient is the quotient rounded down or
up. -/
theorem eq_or_eq_succ_of_near {num den n : Nat} (hden : 0 < den)
    (hlow : 2 * (n * den) ≤ 2 * num + den) (hhigh : 2 * num ≤ 2 * (n * den) + den) :
    n = num / den ∨ n = num / den + 1 := by
  have hdiv : den * (num / den) + num % den = num := Nat.div_add_mod num den
  have hmod : num % den < den := Nat.mod_lt _ hden
  generalize num / den = q at *
  have hle : n ≤ q + 1 := by
    by_contra hlt
    have hmul : (q + 2) * den ≤ n * den := Nat.mul_le_mul_right _ (by omega)
    have hexpand : (q + 2) * den = den * q + 2 * den := by ring
    omega
  have hge : q ≤ n := by
    by_contra hlt
    have hmul : (n + 1) * den ≤ q * den := Nat.mul_le_mul_right _ (by omega)
    have hexpand : (n + 1) * den = n * den + den := by ring
    have hcomm : q * den = den * q := Nat.mul_comm _ _
    omega
  omega

/-- Rounding to a whole number that is at most a half away, said in whole numbers. -/
theorem roundQuotient_of_near {num den n : Nat} (hden : 0 < den)
    (hlow : 2 * (n * den) ≤ 2 * num + den) (hhigh : 2 * num ≤ 2 * (n * den) + den)
    (htie : n % 2 = 0 ∨ (2 * (n * den) < 2 * num + den ∧ 2 * num < 2 * (n * den) + den)) :
    roundQuotient num den = n := by
  have hcases := eq_or_eq_succ_of_near hden hlow hhigh
  have hdiv : den * (num / den) + num % den = num := Nat.div_add_mod num den
  have hmod : num % den < den := Nat.mod_lt _ hden
  rw [roundQuotient]
  generalize num / den = q at *
  generalize num % den = r at *
  rcases hcases with rfl | rfl
  · have hcomm : n * den = den * n := Nat.mul_comm _ _
    rw [hcomm] at hlow hhigh htie
    by_cases h₁ : 2 * r < den
    · simp only [if_pos h₁]
    · by_cases h₂ : den < 2 * r
      · omega
      · simp only [if_neg h₁, if_neg h₂]
        rw [if_pos (by omega)]
  · have hexpand : (q + 1) * den = den * q + den := by ring
    rw [hexpand] at hlow hhigh htie
    by_cases h₁ : 2 * r < den
    · omega
    · by_cases h₂ : den < 2 * r
      · simp only [if_neg h₁, if_pos h₂]
      · simp only [if_neg h₁, if_neg h₂]
        rw [if_neg (by omega)]

/-- A quotient is rounded to a whole number that is at most a half away, if the number is even or
the distance is less than a half. -/
theorem roundQuotient_eq {num den n : Nat} (hden : 0 < den) (hlow : (n : ℚ) - 1 / 2 ≤ num / den)
    (hhigh : (num : ℚ) / den ≤ n + 1 / 2)
    (htie : n % 2 = 0 ∨ ((n : ℚ) - 1 / 2 < num / den ∧ (num : ℚ) / den < n + 1 / 2)) :
    roundQuotient num den = n := by
  have hpos : (0 : ℚ) < den := by exact_mod_cast hden
  rw [le_div_iff₀ hpos] at hlow
  rw [div_le_iff₀ hpos] at hhigh
  rw [lt_div_iff₀ hpos, div_lt_iff₀ hpos] at htie
  refine roundQuotient_of_near hden ?_ ?_ (htie.imp_right fun ⟨h, h'⟩ => ⟨?_, ?_⟩)
  · have : (2 * (n * den) : ℚ) ≤ 2 * num + den := by linarith
    exact_mod_cast this
  · have : (2 * num : ℚ) ≤ 2 * (n * den) + den := by linarith
    exact_mod_cast this
  · have : (2 * (n * den) : ℚ) < 2 * num + den := by linarith
    exact_mod_cast this
  · have : (2 * num : ℚ) < 2 * (n * den) + den := by linarith
    exact_mod_cast this

/-! ### Powers -/

theorem zpow_of_nonneg (b : Nat) {e : Int} (h : 0 ≤ e) :
    (b : ℚ) ^ e = ((Nat.pow b e.toNat : Nat) : ℚ) := by
  obtain ⟨n, rfl⟩ := Int.eq_ofNat_of_zero_le h
  simp

theorem zpow_of_neg (b : Nat) {e : Int} (h : ¬ 0 ≤ e) :
    (b : ℚ) ^ e = ((Nat.pow b (-e).toNat : Nat) : ℚ)⁻¹ := by
  obtain ⟨n, hn⟩ := Int.eq_ofNat_of_zero_le (a := -e) (by omega)
  obtain rfl : e = -(n : Int) := by omega
  simp

/-- The powers of two around a natural number. -/
theorem two_zpow_log2 {n : Nat} (hn : 0 < n) :
    (2 : ℚ) ^ (n.log2 : Int) ≤ n ∧ (n : ℚ) < (2 : ℚ) ^ ((n.log2 : Int) + 1) := by
  have hlow : 2 ^ n.log2 ≤ n := Nat.log2_self_le (by omega)
  have hhigh : n < 2 ^ (n.log2 + 1) := Nat.lt_log2_self
  constructor
  · rw [zpow_natCast]
    exact_mod_cast hlow
  · have hcast : ((n.log2 : Int) + 1) = ((n.log2 + 1 : Nat) : Int) := by push_cast; rfl
    rw [hcast, zpow_natCast]
    exact_mod_cast hhigh

/-! ### The last place -/

section

variable {f : BinaryFormat} {num den : Nat}

/-- The quotient `v` has its last place at the exponent `e`: as many digits as there are before it
are wanted, unless the exponent is the smallest one. -/
structure LastPlace (f : BinaryFormat) (v : ℚ) (e : Int) : Prop where
  min : f.minExponent ≤ e
  lt : v < (2 : ℚ) ^ (e + f.fractionBits + 1)
  le : e = f.minExponent ∨ (2 : ℚ) ^ (e + f.fractionBits) ≤ v

/-- A power of two is at most a quotient, said in whole numbers. -/
theorem two_zpow_le_iff (hden : 0 < den) (k : Int) :
    (2 : ℚ) ^ (k + f.fractionBits) ≤ (num : ℚ) / den ↔
      if 0 ≤ k then den * Nat.pow 2 k.toNat * Nat.pow 2 f.fractionBits ≤ num
      else den * Nat.pow 2 f.fractionBits ≤ num * Nat.pow 2 (-k).toNat := by
  have hpos : (0 : ℚ) < den := by exact_mod_cast hden
  have htwo : ((2 : Nat) : ℚ) = 2 := rfl
  rw [zpow_add₀ (by norm_num), zpow_natCast, le_div_iff₀ hpos]
  split
  · next hk =>
    rw [← htwo, zpow_of_nonneg 2 hk, ← Nat.cast_pow, ← Nat.cast_mul, ← Nat.cast_mul, Nat.cast_le,
      Nat.mul_comm _ den, ← Nat.mul_assoc, Nat.pow_eq, Nat.pow_eq]
  · next hk =>
    have hscale : (0 : ℚ) < ((Nat.pow 2 (-k).toNat : Nat) : ℚ) := by
      rw [Nat.pow_eq]
      positivity
    rw [← htwo, zpow_of_neg 2 hk, mul_assoc, inv_mul_le_iff₀ hscale, ← Nat.cast_pow,
      ← Nat.cast_mul, ← Nat.cast_mul, Nat.cast_le, Nat.mul_comm _ den, Nat.mul_comm _ num]
    simp only [Nat.pow_eq]

/-- The last place is the one at which `lastPlace` puts it. -/
theorem lastPlace_eq (hnum : 0 < num) (hden : 0 < den) {e : Int}
    (h : LastPlace f ((num : ℚ) / den) e) : f.lastPlace num den = e := by
  have hpos : (0 : ℚ) < den := by exact_mod_cast hden
  have htwo : (1 : ℚ) < 2 := by norm_num
  obtain ⟨hnumLow, hnumHigh⟩ := two_zpow_log2 hnum
  obtain ⟨hdenLow, hdenHigh⟩ := two_zpow_log2 hden
  let k : Int := (num.log2 : Int) - den.log2 - f.fractionBits
  have hlow : (2 : ℚ) ^ (k - 1 + f.fractionBits) ≤ (num : ℚ) / den := by
    have hk : k - 1 + f.fractionBits = (num.log2 : Int) - ((den.log2 : Int) + 1) := by omega
    rw [hk, zpow_sub₀ (by norm_num)]
    exact div_le_div₀ (by positivity) hnumLow hpos hdenHigh.le
  have hhigh : (num : ℚ) / den < (2 : ℚ) ^ (k + f.fractionBits + 1) := by
    have hk : k + f.fractionBits + 1 = ((num.log2 : Int) + 1) - den.log2 := by omega
    rw [hk, zpow_sub₀ (by norm_num)]
    exact div_lt_div₀ hnumHigh hdenLow (zpow_nonneg (by norm_num) _) (zpow_pos (by norm_num) _)
  have hfull : (2 : ℚ) ^ (k + f.fractionBits) ≤ (num : ℚ) / den ↔ _ := two_zpow_le_iff hden k
  -- Both the exponent found and the wanted one enclose the quotient, so they are the same.
  have hsame (j : Int) (hj : (2 : ℚ) ^ (j + f.fractionBits) ≤ (num : ℚ) / den)
      (hj' : (num : ℚ) / den < (2 : ℚ) ^ (j + f.fractionBits + 1)) :
      max f.minExponent j = e := by
    have hle : j ≤ e := by
      have := (zpow_lt_zpow_iff_right₀ htwo).1 (hj.trans_lt h.lt)
      omega
    rcases h.le with rfl | hge
    · exact max_eq_left hle
    · have := (zpow_lt_zpow_iff_right₀ htwo).1 (hge.trans_lt hj')
      rw [max_eq_right (by have := h.min; omega)]
      omega
  have hlast : f.lastPlace num den =
      max f.minExponent
        (if (2 : ℚ) ^ (k + f.fractionBits) ≤ (num : ℚ) / den then k else k - 1) := by
    rw [lastPlace]
    refine congrArg (max f.minExponent) (if_congr ?_ rfl rfl)
    rw [hfull]
    split <;> exact decide_eq_true_iff
  rw [hlast]
  split
  · next hle => exact hsame k hle hhigh
  · next hlt =>
    refine hsame (k - 1) hlow ?_
    rw [show k - 1 + (f.fractionBits : Int) + 1 = k + f.fractionBits by omega]
    exact not_le.1 hlt

/-! ### The nearest number -/

/-- The magnitude is `m · 2 ^ e`, with as many digits in `m` as there may be. -/
structure Decodes (f : BinaryFormat) (magnitude m : Nat) (e : Int) : Prop where
  min : f.minExponent ≤ e
  lt : m < 2 ^ (f.fractionBits + 1)
  le : e = f.minExponent ∨ 2 ^ f.fractionBits ≤ m
  eq : magnitude = (e - f.minExponent).toNat * 2 ^ f.fractionBits + m

theorem decodes_decode (f : BinaryFormat) (magnitude : Nat) :
    Decodes f magnitude (f.decode magnitude).1 (f.decode magnitude).2 := by
  have hunit : 0 < 2 ^ f.fractionBits := Nat.two_pow_pos _
  have hsum : 2 ^ f.fractionBits * (magnitude / 2 ^ f.fractionBits) +
    magnitude % 2 ^ f.fractionBits = magnitude := Nat.div_add_mod _ _
  have hmod : magnitude % 2 ^ f.fractionBits < 2 ^ f.fractionBits := Nat.mod_lt _ hunit
  have hdouble : 2 ^ (f.fractionBits + 1) = 2 ^ f.fractionBits + 2 ^ f.fractionBits := by
    rw [Nat.pow_succ]
    omega
  rw [decode, Nat.pow_eq]
  split
  · next hzero =>
    rw [hzero] at hsum
    refine ⟨le_rfl, ?_, .inl rfl, ?_⟩
    · change magnitude < _
      omega
    · simp
  · next hpos =>
    have hbiased : (f.minExponent + ((magnitude / 2 ^ f.fractionBits - 1 : Nat) : Int) -
        f.minExponent).toNat = magnitude / 2 ^ f.fractionBits - 1 := by omega
    refine ⟨?_, ?_, .inr ?_, ?_⟩
    · change f.minExponent ≤ f.minExponent + ((magnitude / 2 ^ f.fractionBits - 1 : Nat) : Int)
      omega
    · change magnitude % 2 ^ f.fractionBits + 2 ^ f.fractionBits < _
      omega
    · change 2 ^ f.fractionBits ≤ magnitude % 2 ^ f.fractionBits + 2 ^ f.fractionBits
      omega
    · change magnitude = (f.minExponent + ((magnitude / 2 ^ f.fractionBits - 1 : Nat) : Int) -
        f.minExponent).toNat * 2 ^ f.fractionBits +
          (magnitude % 2 ^ f.fractionBits + 2 ^ f.fractionBits)
      rw [hbiased]
      obtain ⟨k, hk⟩ := Nat.exists_eq_succ_of_ne_zero hpos
      rw [hk] at hsum ⊢
      have hexpand : 2 ^ f.fractionBits * k.succ =
          k * 2 ^ f.fractionBits + 2 ^ f.fractionBits := by
        rw [Nat.mul_succ, Nat.mul_comm]
      simp only [Nat.succ_sub_one]
      omega

/-- How far the quotients that round to `m · 2 ^ e` reach below it, in units of the last place: the
numbers below a power of two are closer to each other than those above it. -/
def reach (f : BinaryFormat) (m : Nat) (e : Int) : ℚ :=
  if m = 2 ^ f.fractionBits ∧ f.minExponent < e then 1 / 4 else 1 / 2

/-- The quotient `v` **rounds** to `m · 2 ^ e`: it is not further from it than half way to the next
numbers, and half way only if `m` is even. -/
structure Rounds (f : BinaryFormat) (m : Nat) (e : Int) (v : ℚ) : Prop where
  low : (m - f.reach m e) * (2 : ℚ) ^ e ≤ v
  high : v ≤ (m + 1 / 2) * (2 : ℚ) ^ e
  tie : m % 2 = 0 ∨ ((m - f.reach m e) * (2 : ℚ) ^ e < v ∧ v < (m + 1 / 2) * (2 : ℚ) ^ e)

/-- A quotient rounded at the exponent `e`. -/
theorem roundQuotient_scaled (hden : 0 < den) {e : Int} {n : Nat}
    (hlow : (n - 1 / 2) * (2 : ℚ) ^ e ≤ (num : ℚ) / den)
    (hhigh : (num : ℚ) / den ≤ (n + 1 / 2) * (2 : ℚ) ^ e)
    (htie : n % 2 = 0 ∨ ((n - 1 / 2) * (2 : ℚ) ^ e < (num : ℚ) / den ∧
      (num : ℚ) / den < (n + 1 / 2) * (2 : ℚ) ^ e)) :
    (if 0 ≤ e then roundQuotient num (den * Nat.pow 2 e.toNat)
      else roundQuotient (num * Nat.pow 2 (-e).toNat) den) = n := by
  have hscale : (0 : ℚ) < (2 : ℚ) ^ e := zpow_pos (by norm_num) e
  have htwo : ((2 : Nat) : ℚ) = 2 := rfl
  rw [← le_div_iff₀ hscale] at hlow
  rw [← div_le_iff₀ hscale] at hhigh
  rw [← lt_div_iff₀ hscale, ← div_lt_iff₀ hscale] at htie
  split
  · next he =>
    have hquotient : (num : ℚ) / den / (2 : ℚ) ^ e =
        (num : ℚ) / ((den * Nat.pow 2 e.toNat : Nat) : ℚ) := by
      rw [← htwo, zpow_of_nonneg 2 he, div_div, Nat.cast_mul]
    rw [hquotient] at hlow hhigh htie
    exact roundQuotient_eq (Nat.mul_pos hden (Nat.two_pow_pos _)) hlow hhigh htie
  · next he =>
    have hquotient : (num : ℚ) / den / (2 : ℚ) ^ e =
        ((num * Nat.pow 2 (-e).toNat : Nat) : ℚ) / den := by
      rw [← htwo, zpow_of_neg 2 he, div_inv_eq_mul, Nat.cast_mul, div_mul_eq_mul_div]
    rw [hquotient] at hlow hhigh htie
    exact roundQuotient_eq hden hlow hhigh htie

theorem reach_pos (f : BinaryFormat) (m : Nat) (e : Int) : 0 < f.reach m e := by
  rw [reach]
  split <;> norm_num

theorem reach_le (f : BinaryFormat) (m : Nat) (e : Int) : f.reach m e ≤ 1 / 2 := by
  rw [reach]
  split <;> norm_num

/-- The nearest number, once its last place and the number of its units are known. -/
theorem nearest_of_lastPlace (hnum : 0 < num) (hden : 0 < den) {e : Int} {n : Nat}
    (hlast : LastPlace f ((num : ℚ) / den) e)
    (hlow : (n - 1 / 2) * (2 : ℚ) ^ e ≤ (num : ℚ) / den)
    (hhigh : (num : ℚ) / den ≤ (n + 1 / 2) * (2 : ℚ) ^ e)
    (htie : n % 2 = 0 ∨ ((n - 1 / 2) * (2 : ℚ) ^ e < (num : ℚ) / den ∧
      (num : ℚ) / den < (n + 1 / 2) * (2 : ℚ) ^ e)) :
    f.nearest num den = min f.infinity ((e - f.minExponent).toNat * 2 ^ f.fractionBits + n) := by
  have hround := roundQuotient_scaled hden hlow hhigh htie
  rw [nearest, if_neg (by omega)]
  simp only [lastPlace_eq hnum hden hlast, hround]
  rfl

theorem two_zpow_add_fractionBits (f : BinaryFormat) (e : Int) :
    (2 : ℚ) ^ (e + f.fractionBits) = (2 : ℚ) ^ f.fractionBits * (2 : ℚ) ^ e := by
  rw [zpow_add₀ (by norm_num), zpow_natCast, mul_comm]

/-- What rounds to a positive number is positive. -/
theorem Rounds.pos {m : Nat} {e : Int} {v : ℚ} (h : Rounds f m e v) (hm : 0 < m) : 0 < v := by
  have hm' : (1 : ℚ) ≤ m := by exact_mod_cast hm
  have hreach := f.reach_le m e
  have hlow : 0 < (m - f.reach m e) * (2 : ℚ) ^ e :=
    mul_pos (by linarith) (zpow_pos (by norm_num) e)
  exact hlow.trans_le h.low

/-- A quotient that has the last place of a number to which it rounds has as many units of it. -/
theorem nearest_eq_of_samePlace {magnitude m : Nat} {e : Int} (hdecodes : Decodes f magnitude m e)
    (hfinite : magnitude < f.infinity) (hnum : 0 < num) (hden : 0 < den)
    (h : Rounds f m e ((num : ℚ) / den))
    (hplace : e = f.minExponent ∨ (2 : ℚ) ^ (e + f.fractionBits) ≤ (num : ℚ) / den) :
    f.nearest num den = magnitude := by
  have hscale : (0 : ℚ) < (2 : ℚ) ^ e := zpow_pos (by norm_num) e
  have hlast : LastPlace f ((num : ℚ) / den) e := by
    refine ⟨hdecodes.min, h.high.trans_lt ?_, hplace⟩
    have hlt : (m : ℚ) + 1 ≤ (2 : ℚ) ^ (f.fractionBits + 1) := by exact_mod_cast hdecodes.lt
    have hsucc : (f.fractionBits : Int) + 1 = ((f.fractionBits + 1 : Nat) : Int) := by
      push_cast
      rfl
    rw [add_assoc, zpow_add₀ (by norm_num), mul_comm, hsucc, zpow_natCast]
    exact mul_lt_mul_of_pos_left (by linarith) hscale
  have hlow : ((m : ℚ) - 1 / 2) * (2 : ℚ) ^ e ≤ (m - f.reach m e) * (2 : ℚ) ^ e :=
    mul_le_mul_of_nonneg_right (by linarith [f.reach_le m e]) hscale.le
  rw [nearest_of_lastPlace hnum hden hlast (hlow.trans h.low) h.high
    (h.tie.imp_right fun ⟨h₁, h₂⟩ => ⟨hlow.trans_lt h₁, h₂⟩), ← hdecodes.eq]
  exact Nat.min_eq_right hfinite.le

/-- Where a quotient rounds to a number and has not the last place of it, the number is a power of
two, and the quotient is below it. -/
theorem Rounds.eq_two_pow {magnitude m : Nat} {e : Int} {v : ℚ} (h : Rounds f m e v)
    (hdecodes : Decodes f magnitude m e) (hne : e ≠ f.minExponent)
    (hbelow : v < (2 : ℚ) ^ (e + f.fractionBits)) : m = 2 ^ f.fractionBits := by
  have hunit : (1 : ℚ) ≤ (2 : ℚ) ^ f.fractionBits := one_le_pow₀ (by norm_num)
  have hmul : (m - f.reach m e) * (2 : ℚ) ^ e < (2 : ℚ) ^ f.fractionBits * (2 : ℚ) ^ e := by
    rw [← two_zpow_add_fractionBits]
    exact h.low.trans_lt hbelow
  have hlt := lt_of_mul_lt_mul_right hmul (zpow_pos (by norm_num) e).le
  by_contra hother
  have hge : (2 : ℚ) ^ f.fractionBits + 1 ≤ m := by
    exact_mod_cast Nat.lt_of_le_of_ne (hdecodes.le.resolve_left hne) (Ne.symm hother)
  linarith [f.reach_le m e]

/-- A quotient below a power of two to which it rounds has its last place one before that of the
power, of which it has twice as many units. -/
theorem nearest_eq_of_below {magnitude m : Nat} {e : Int} (hdecodes : Decodes f magnitude m e)
    (hfinite : magnitude < f.infinity) (hnum : 0 < num) (hden : 0 < den)
    (h : Rounds f m e ((num : ℚ) / den)) (hne : e ≠ f.minExponent)
    (hbelow : (num : ℚ) / den < (2 : ℚ) ^ (e + f.fractionBits)) :
    f.nearest num den = magnitude := by
  have hmin : f.minExponent < e := lt_of_le_of_ne hdecodes.min (Ne.symm hne)
  have hmpow : m = 2 ^ f.fractionBits := h.eq_two_pow hdecodes hne hbelow
  have hcast : (m : ℚ) = (2 : ℚ) ^ f.fractionBits := by exact_mod_cast hmpow
  have hunit : (1 : ℚ) ≤ (2 : ℚ) ^ f.fractionBits := one_le_pow₀ (by norm_num)
  have hhalf : (2 : ℚ) ^ e = 2 * (2 : ℚ) ^ (e - 1) := by
    rw [← zpow_one_add₀ (by norm_num)]
    congr 1
    omega
  have hhalfpos : (0 : ℚ) < (2 : ℚ) ^ (e - 1) := zpow_pos (by norm_num) _
  have hlow := h.low
  rw [show f.reach m e = 1 / 4 from if_pos ⟨hmpow, hmin⟩] at hlow
  have hlast : LastPlace f ((num : ℚ) / den) (e - 1) := by
    refine ⟨by omega, ?_, .inr (le_trans ?_ hlow)⟩
    · rw [show e - 1 + (f.fractionBits : Int) + 1 = e + f.fractionBits by omega]
      exact hbelow
    · rw [two_zpow_add_fractionBits, hcast, hhalf]
      nlinarith
  rw [nearest_of_lastPlace (n := 2 * m) hnum hden hlast]
  · have hexponent : (e - f.minExponent).toNat = (e - 1 - f.minExponent).toNat + 1 := by omega
    have heq := hdecodes.eq
    rw [hexponent, Nat.add_mul, Nat.one_mul] at heq
    rw [Nat.min_eq_right] <;> omega
  · push_cast
    rw [hhalf] at hlow
    linarith
  · push_cast
    rw [two_zpow_add_fractionBits, ← hcast, hhalf] at hbelow
    linarith
  · exact .inl (by omega)

/-- **A quotient that rounds to a finite number** has it for its nearest number. -/
theorem nearest_eq {magnitude m : Nat} {e : Int} (hdecodes : Decodes f magnitude m e)
    (hfinite : magnitude < f.infinity) (hm : 0 < m) (hden : 0 < den)
    (h : Rounds f m e ((num : ℚ) / den)) : f.nearest num den = magnitude := by
  have hnum : 0 < num := by
    have hquotient := h.pos hm
    rw [div_pos_iff_of_pos_right (by exact_mod_cast hden)] at hquotient
    exact_mod_cast hquotient
  by_cases hplace : e = f.minExponent ∨ (2 : ℚ) ^ (e + f.fractionBits) ≤ (num : ℚ) / den
  · exact nearest_eq_of_samePlace hdecodes hfinite hnum hden h hplace
  · rw [not_or, not_le] at hplace
    exact nearest_eq_of_below hdecodes hfinite hnum hden h hplace.1 hplace.2

/-! ### Numbers that need no rounding -/

/-- A number rounds to itself. -/
theorem rounds_self (f : BinaryFormat) (m : Nat) (e : Int) : Rounds f m e (m * (2 : ℚ) ^ e) := by
  have hscale : (0 : ℚ) < (2 : ℚ) ^ e := zpow_pos (by norm_num) e
  have hlow : (m - f.reach m e) * (2 : ℚ) ^ e < m * (2 : ℚ) ^ e :=
    mul_lt_mul_of_pos_right (by linarith [f.reach_pos m e]) hscale
  have hhigh : m * (2 : ℚ) ^ e < (m + 1 / 2) * (2 : ℚ) ^ e :=
    mul_lt_mul_of_pos_right (by linarith) hscale
  exact ⟨hlow.le, hhigh.le, .inr ⟨hlow, hhigh⟩⟩

/-- A magnitude is decoded in one way only. -/
theorem decode_of_decodes {magnitude m : Nat} {e : Int} (h : Decodes f magnitude m e) :
    f.decode magnitude = (m, e) := by
  have hunit : 0 < 2 ^ f.fractionBits := Nat.two_pow_pos _
  have hlt := h.lt
  have hmin := h.min
  rw [Nat.pow_succ] at hlt
  rw [decode, Nat.pow_eq, h.eq]
  by_cases hm : m < 2 ^ f.fractionBits
  · obtain rfl := h.le.resolve_right (by omega)
    have hzero : (f.minExponent - f.minExponent).toNat = 0 := by omega
    rw [hzero, Nat.zero_mul, Nat.zero_add, Nat.div_eq_of_lt hm, if_pos rfl]
  · have hfull : (e - f.minExponent).toNat * 2 ^ f.fractionBits + m =
        2 ^ f.fractionBits * ((e - f.minExponent).toNat + 1) + (m - 2 ^ f.fractionBits) := by
      rw [Nat.mul_succ, Nat.mul_comm]
      omega
    have hrest : m - 2 ^ f.fractionBits < 2 ^ f.fractionBits := by omega
    rw [hfull, Nat.mul_add_div hunit, Nat.div_eq_of_lt hrest, Nat.mul_add_mod,
      Nat.mod_eq_of_lt hrest, if_neg (by omega)]
    refine Prod.ext ?_ ?_
    · change m - 2 ^ f.fractionBits + 2 ^ f.fractionBits = m
      omega
    · change f.minExponent + (((e - f.minExponent).toNat + 1 + 0 - 1 : Nat) : Int) = e
      omega

/-- A number with few binary digits is one of the format. -/
theorem exists_decodes (f : BinaryFormat) {n : Nat} {d : Int} (hn : 0 < n)
    (hlt : n < 2 ^ (f.fractionBits + 1)) (hd : f.minExponent ≤ d) :
    ∃ magnitude m e, Decodes f magnitude m e ∧ 0 < m ∧ e ≤ d ∧
      (m : ℚ) * (2 : ℚ) ^ e = n * (2 : ℚ) ^ d := by
  have hlog : n.log2 ≤ f.fractionBits := by
    have := (Nat.log2_lt (by omega)).2 hlt
    omega
  let j := min (f.fractionBits - n.log2) (d - f.minExponent).toNat
  have hpow : 0 < 2 ^ j := Nat.two_pow_pos j
  have hlow : 2 ^ n.log2 ≤ n := Nat.log2_self_le (by omega)
  refine ⟨(d - j - f.minExponent).toNat * 2 ^ f.fractionBits + n * 2 ^ j, n * 2 ^ j, d - j,
    ⟨by omega, ?_, ?_, rfl⟩, Nat.mul_pos hn hpow, by omega, ?_⟩
  · have hle : 2 ^ (n.log2 + 1) * 2 ^ j ≤ 2 ^ (f.fractionBits + 1) := by
      rw [← Nat.pow_add]
      exact Nat.pow_le_pow_right (by omega) (by omega)
    exact (Nat.mul_lt_mul_of_pos_right Nat.lt_log2_self hpow).trans_le hle
  · by_cases hj : j = (d - f.minExponent).toNat
    · exact .inl (by omega)
    · have heq : n.log2 + j = f.fractionBits := by omega
      rw [← heq, Nat.pow_add]
      exact .inr (Nat.mul_le_mul_right _ hlow)
  · rw [zpow_sub₀ (by norm_num), zpow_natCast]
    push_cast
    field_simp

end

end Scenarist.BinaryFormat

namespace Scenarist.Binary

open BinaryFormat

variable {f : BinaryFormat}

/-- The quotient **reads as** the number: it is zero for zero, and otherwise one that rounds to the
number. -/
def ReadsAs (x : Binary f) (v : ℚ) : Prop :=
  if x.magnitude = 0 then v = 0
  else Rounds f (f.decode x.magnitude).1 (f.decode x.magnitude).2 v

/-- **A quotient that reads as a finite number** is rounded to it. -/
theorem ofRatio_eq {x : Binary f} {num den : Nat} (hx : x.isFinite = true) (hden : 0 < den)
    (h : x.ReadsAs ((num : ℚ) / den)) : ofRatio x.negative num den = x := by
  have hpos : (0 : ℚ) < den := by exact_mod_cast hden
  have hdecodes := decodes_decode f x.magnitude
  rw [ReadsAs] at h
  have hmagnitude : f.nearest num den = x.magnitude := by
    split at h
    · next hzero =>
      obtain rfl : num = 0 := by
        rcases div_eq_zero_iff.1 h with h | h
        · exact_mod_cast h
        · exact absurd h hpos.ne'
      rw [hzero, nearest, if_pos rfl]
    · next hzero =>
      refine nearest_eq hdecodes (of_decide_eq_true hx) (Nat.pos_of_ne_zero fun hm => ?_) hden h
      have heq := hdecodes.eq
      rcases hdecodes.le with he | hle
      · rw [hm, he] at heq
        simp at heq
        exact hzero heq
      · rw [hm] at hle
        exact absurd (Nat.two_pow_pos f.fractionBits) (by omega)
  rw [ofRatio, hmagnitude]

/-- The same for a decimal. -/
theorem ofDecimal_eq {x : Binary f} {digits : Nat} {exponent : Int} (hx : x.isFinite = true)
    (h : x.ReadsAs (digits * (10 : ℚ) ^ exponent)) : ofDecimal x.negative digits exponent = x := by
  have hten : ((10 : Nat) : ℚ) = 10 := rfl
  rw [ofDecimal]
  split
  · next he =>
    refine ofRatio_eq hx Nat.one_pos ?_
    rw [← hten, zpow_of_nonneg 10 he] at h
    rwa [Nat.cast_one, div_one, Nat.cast_mul]
  · next he =>
    refine ofRatio_eq hx (Nat.pow_pos (by omega)) ?_
    rwa [← hten, zpow_of_neg 10 he, ← div_eq_mul_inv] at h

/-- The absolute value of a number, as a quotient. -/
theorem ratio_eq (x : Binary f) : 0 < x.ratio.2 ∧ (x.ratio.1 : ℚ) / x.ratio.2 =
    (f.decode x.magnitude).1 * (2 : ℚ) ^ (f.decode x.magnitude).2 := by
  have htwo : ((2 : Nat) : ℚ) = 2 := rfl
  by_cases he : 0 ≤ (f.decode x.magnitude).2
  · have hratio : x.ratio =
        ((f.decode x.magnitude).1 * Nat.pow 2 (f.decode x.magnitude).2.toNat, 1) := if_pos he
    rw [hratio, ← htwo, zpow_of_nonneg 2 he]
    exact ⟨Nat.one_pos, by rw [Nat.cast_one, div_one, Nat.cast_mul]⟩
  · have hratio : x.ratio =
        ((f.decode x.magnitude).1, Nat.pow 2 (-(f.decode x.magnitude).2).toNat) := if_neg he
    rw [hratio, ← htwo, zpow_of_neg 2 he]
    exact ⟨Nat.two_pow_pos _, div_eq_mul_inv _ _⟩

/-- A number reads as itself. -/
theorem readsAs_ratio (x : Binary f) : x.ReadsAs ((x.ratio.1 : ℚ) / x.ratio.2) := by
  rw [ReadsAs, x.ratio_eq.2]
  split
  · next hzero =>
    have heq := (decodes_decode f x.magnitude).eq
    have hm : (f.decode x.magnitude).1 = 0 := by omega
    rw [hm, Nat.cast_zero, zero_mul]
  · exact rounds_self f _ _

/-- A finite number is converted by rounding its quotient. -/
theorem convert_of_isFinite {g : BinaryFormat} {x : Binary f} (hx : x.isFinite = true) :
    (x.convert : Binary g) = ofRatio x.negative x.ratio.1 x.ratio.2 := by
  have hlt : x.magnitude < f.infinity := of_decide_eq_true hx
  have hdefined : ¬ x.isUndefined = true := by simp [isUndefined, hlt.le]
  have hbounded : ¬ x.isInfinite = true := by simp [isInfinite, hlt.ne]
  rw [convert, if_neg hdefined, if_neg hbounded]

/-- A finite number of single precision is one of double precision. -/
theorem exists_double {magnitude : Nat} (h : magnitude < BinaryFormat.single.infinity)
    (hm : 0 < (BinaryFormat.single.decode magnitude).1) :
    ∃ wide m e, Decodes BinaryFormat.double wide m e ∧ wide < BinaryFormat.double.infinity ∧
      0 < m ∧ (m : ℚ) * (2 : ℚ) ^ e =
        (BinaryFormat.single.decode magnitude).1 *
          (2 : ℚ) ^ (BinaryFormat.single.decode magnitude).2 := by
  obtain ⟨hmin, hlt, -, heq⟩ := decodes_decode BinaryFormat.single magnitude
  generalize (BinaryFormat.single.decode magnitude).1 = n at *
  generalize (BinaryFormat.single.decode magnitude).2 = d at *
  have hnarrow : BinaryFormat.single.minExponent = -149 := by decide
  have hwide : BinaryFormat.double.minExponent = -1074 := by decide
  have hinfinity : BinaryFormat.double.infinity = 2047 * 2 ^ 52 := by decide
  have hbound : BinaryFormat.single.infinity = 255 * 2 ^ 23 := by decide
  have hbits : BinaryFormat.single.fractionBits = 23 := rfl
  have hbits' : BinaryFormat.double.fractionBits = 52 := rfl
  rw [hnarrow] at hmin heq
  rw [hbits] at hlt heq
  obtain ⟨wide, m, e, hdecodes, hm', hed, hvalue⟩ :=
    exists_decodes BinaryFormat.double (n := n) (d := d) hm (by rw [hbits']; omega) (by omega)
  refine ⟨wide, m, e, hdecodes, ?_, hm', hvalue⟩
  have hlt' := hdecodes.lt
  have heq' := hdecodes.eq
  rw [hbits', hwide] at heq'
  rw [hbits'] at hlt'
  omega

/-- A number that is infinite or undefined is still so when it was converted. -/
theorem isFinite_convert {g : BinaryFormat} {x : Binary f} (hx : x.isFinite = false) :
    (x.convert : Binary g).isFinite = false := by
  have hle : f.infinity ≤ x.magnitude := not_lt.1 (of_decide_eq_false hx)
  rw [convert]
  by_cases hdefined : x.isUndefined = true
  · rw [if_pos hdefined]
    exact decide_eq_false (by simp)
  · have hmagnitude : x.magnitude ≤ f.infinity := not_lt.1 fun h => hdefined (decide_eq_true h)
    have hinfinite : x.isInfinite = true := beq_iff_eq.2 (hmagnitude.antisymm hle)
    rw [if_neg hdefined, if_pos hinfinite]
    exact decide_eq_false (lt_irrefl _)

/-- **Widening a finite number keeps its value.** -/
theorem ratio_convert {x : Single} (hx : x.isFinite = true) :
    (x.convert : Double).isFinite = true ∧
      ((x.convert : Double).ratio.1 : ℚ) / (x.convert : Double).ratio.2 =
        (x.ratio.1 : ℚ) / x.ratio.2 := by
  have hlt : x.magnitude < BinaryFormat.single.infinity := of_decide_eq_true hx
  obtain ⟨hden, hvalue⟩ := x.ratio_eq
  rw [convert_of_isFinite hx, (ofRatio _ _ _ : Double).ratio_eq.2, hvalue]
  by_cases hm : (BinaryFormat.single.decode x.magnitude).1 = 0
  · have hzero : x.ratio.1 = 0 := by
      rw [hm, Nat.cast_zero, zero_mul, div_eq_zero_iff] at hvalue
      rcases hvalue with h | h
      · exact_mod_cast h
      · exact absurd hden (by rw [Nat.cast_eq_zero.1 h]; omega)
    rw [hzero, hm, ofRatio, nearest, if_pos rfl, Nat.cast_zero, zero_mul]
    refine ⟨decide_eq_true (by decide : 0 < BinaryFormat.double.infinity), ?_⟩
    rw [show (BinaryFormat.double.decode 0).1 = 0 from rfl, Nat.cast_zero, zero_mul]
  · obtain ⟨wide, m, e, hdecodes, hfinite, hm', hsame⟩ := exists_double hlt (by omega)
    have hnearest : BinaryFormat.double.nearest x.ratio.1 x.ratio.2 = wide := by
      refine nearest_eq hdecodes hfinite hm' hden ?_
      rw [hvalue, ← hsame]
      exact rounds_self _ m e
    rw [ofRatio, hnearest, decode_of_decodes hdecodes]
    exact ⟨decide_eq_true hfinite, hsame⟩

/-- **Narrowing undoes widening.** -/
theorem convert_convert {x : Single} (hx : x.isFinite = true) :
    ((x.convert : Double).convert : Single) = x := by
  obtain ⟨hfinite, hvalue⟩ := ratio_convert hx
  have hsign : (x.convert : Double).negative = x.negative := by rw [convert_of_isFinite hx]; rfl
  rw [convert_of_isFinite hfinite, hsign]
  refine ofRatio_eq hx (x.convert : Double).ratio_eq.1 ?_
  rw [hvalue]
  exact x.readsAs_ratio

end Scenarist.Binary
