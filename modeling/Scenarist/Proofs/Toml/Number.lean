import Scenarist.Proofs.Decimal.Shortest
import Scenarist.Proofs.Json.Reading
import Scenarist.Toml.Reader
import Scenarist.Toml.Writer

/-!
# Numbers of TOML Are Read Back

A number is read up to its end, and what is read is the number that was written. An integer is
written by its digits. A floating-point number is written by the digits of its shortest decimal
with a point among them (`exists_pointed`); the reader makes one decimal of all the digits, which
reads as the number (`Binary.shortest_readsAs`). Numbers that are undefined are all written alike
and read as one of them.

The text of a number begins as a date might. It is none, since after the digits neither a hyphen nor
a colon follows (`dateValue_of_digits`).

## Main results

* `numberValue_intText`: **an integer is read back** if it fits 64 bits with a sign.
* `numberValue_floatForm`: **a floating-point number is read back**.
* `Numeral.value_eq`: where a number begins, the reader of values reads a number.
-/

namespace Scenarist.Toml

open Json (Digits)

/-! ### Where a value ends -/

/-- A value that was written ends here: the text is over, or a line end, a comma, a bracket or a
blank follows. -/
def Stops (rest : List Char) : Prop := ∀ c, rest.head? = some c → c ∈ ['\n', ',', ']', ' ']

variable {rest ds whole places : List Char}

/-- No digit comes where a number stops. -/
theorem Stops.not_isDigit (h : Stops rest) {c : Char} (hc : rest.head? = some c) :
    c.isDigit = false := by
  have hmem := h c hc
  simp only [List.mem_cons, List.not_mem_nil, or_false] at hmem
  rcases hmem with rfl | rfl | rfl | rfl <;> rfl

/-- No other character follows. -/
theorem Stops.head?_ne (h : Stops rest) {c : Char} (hc : c ∉ ['\n', ',', ']', ' ']) :
    rest.head? ≠ some c := fun heq => hc (h c heq)

/-! ### Digits -/

/-- A run of digits goes on with the next character if it is a digit, and no mark between digits
comes next. -/
theorem digitRun_cons {ok : Char → Bool} {c : Char} {cs : List Char} (h : cs.head? ≠ some '_') :
    digitRun ok (c :: cs) =
      if ok c then (c :: (digitRun ok cs).1, (digitRun ok cs).2) else ([], c :: cs) := by
  rw [digitRun]
  rintro d ds rfl
  exact h rfl

/-- Digits are read up to a character that is neither a digit nor an underscore. -/
theorem digitRun_append (hds : ds.all Char.isDigit = true)
    (hrest : ∀ c, rest.head? = some c → c.isDigit = false ∧ c ≠ '_') :
    digitRun Char.isDigit (ds ++ rest) = (ds, rest) := by
  induction ds with
  | nil =>
      cases rest with
      | nil => rfl
      | cons c rest =>
          have hc := (hrest c rfl).1
          rw [List.nil_append, digitRun.eq_def]
          split <;> simp_all
  | cons d ds ih =>
      rw [List.all_cons, Bool.and_eq_true] at hds
      have hhead : (ds ++ rest).head? ≠ some '_' := by
        intro hunder
        cases ds with
        | nil => exact (hrest '_' hunder).2 rfl
        | cons d ds =>
            obtain rfl : d = '_' := Option.some.inj hunder
            simp at hds
      rw [List.cons_append, digitRun_cons hhead, if_pos hds.1, ih hds.2]

/-- The number that digits stand for. -/
theorem valueOf_ten (hds : ds.all Char.isDigit = true) :
    valueOf 10 ds = Nat.ofDigitChars 10 ds 0 := by
  have hdigit (c : Char) (hc : c.isDigit = true) :
      (Text.hexValue? c).getD 0 = c.toNat - '0'.toNat := by
    simp only [Char.isDigit, Bool.and_eq_true, decide_eq_true_eq, ge_iff_le, UInt32.le_iff_toNat_le]
      at hc
    have hrange : (decide (48 ≤ c.toNat) && decide (c.toNat ≤ 57)) = true := by
      rw [Bool.and_eq_true, decide_eq_true_eq, decide_eq_true_eq]
      exact hc
    rw [Text.hexValue?, if_pos hrange]
    rfl
  have hfold (n : Nat) : ds.foldl (fun n c => 10 * n + (Text.hexValue? c).getD 0) n =
      Nat.ofDigitChars 10 ds n := by
    induction ds generalizing n with
    | nil => rfl
    | cons d ds ih =>
        rw [List.all_cons, Bool.and_eq_true] at hds
        rw [List.foldl_cons, hdigit d hds.1, Nat.ofDigitChars_cons, ih hds.2]
  exact hfold 0

/-! ### No date -/

/-- What does not begin with a digit is no number of digits. -/
theorem fixedNumber_eq_none {cs : List Char} (h : ∀ c, cs.head? = some c → c.isDigit = false)
    {count : Nat} (hcount : 0 < count) (low high : Nat) : fixedNumber count low high cs = none := by
  rw [fixedNumber]
  refine if_neg fun hall => ?_
  rw [Bool.and_eq_true, decide_eq_true_eq] at hall
  obtain ⟨hlength, hdigits⟩ := hall
  cases cs with
  | nil =>
      rw [List.take_nil, List.length_nil] at hlength
      omega
  | cons c cs =>
      obtain ⟨k, rfl⟩ := Nat.exists_eq_succ_of_ne_zero hcount.ne'
      rw [List.take_succ_cons, List.all_cons, h c rfl] at hdigits
      cases hdigits

/-- A number of digits is taken off the digits at the start of a text. -/
theorem exists_of_fixedNumber_append (hds : ds.all Char.isDigit = true)
    (hrest : ∀ c, rest.head? = some c → c.isDigit = false) {count low high n : Nat} {r : List Char}
    (h : fixedNumber count low high (ds ++ rest) = some (n, r)) :
    ∃ ds', ds'.all Char.isDigit = true ∧ r = ds' ++ rest := by
  simp only [fixedNumber] at h
  split at h
  · next hall =>
    rw [Bool.and_eq_true, decide_eq_true_eq] at hall
    obtain ⟨hlength, hdigits⟩ := hall
    split at h
    · obtain ⟨rfl, rfl⟩ : _ ∧ _ := by simpa using h
      rcases Nat.lt_or_ge ds.length count with hlt | hle
      · rw [List.take_append, List.all_append, Bool.and_eq_true] at hdigits
        rw [List.take_append, List.length_append, List.take_of_length_le hlt.le] at hlength
        cases rest with
        | nil =>
            rw [List.take_nil, List.length_nil] at hlength
            omega
        | cons c rest =>
            obtain ⟨k, hk⟩ := Nat.exists_eq_succ_of_ne_zero (Nat.sub_ne_zero_of_lt hlt)
            rw [hk, List.take_succ_cons, List.all_cons, hrest c rfl] at hdigits
            cases hdigits.2
      · refine ⟨ds.drop count, ?_, List.drop_append_of_le_length hle⟩
        exact List.all_eq_true.2 fun c hc => List.all_eq_true.1 hds c (List.mem_of_mem_drop hc)
    · cases h
  · cases h

/-- Digits and what comes after them do not begin with a character that is no digit and does not
come there. -/
theorem after?_append_eq_none (hds : ds.all Char.isDigit = true) {c : Char}
    (hc : c.isDigit = false) (hrest : rest.head? ≠ some c) : after? c (ds ++ rest) = none := by
  cases ds with
  | nil =>
      cases rest with
      | nil => rfl
      | cons d rest => exact if_neg fun hdc => hrest (congrArg some hdc)
  | cons d ds =>
      rw [List.all_cons, Bool.and_eq_true] at hds
      exact if_neg (Json.ne_of_isDigit hds.1 hc)

/-- What is neither a date nor a time of the day is no date. -/
theorem dateValue_eq_none {cs : List Char} (hdate : dateText cs = none)
    (htime : timeText cs = none) : dateValue cs = none := by
  rw [dateValue, hdate]
  dsimp only
  rw [htime]
  rfl

/-- What does not begin with a digit is no date. -/
theorem dateValue_of_head {cs : List Char} (h : ∀ c, cs.head? = some c → c.isDigit = false) :
    dateValue cs = none := by
  refine dateValue_eq_none ?_ ?_
  · rw [dateText, fixedNumber_eq_none h (by omega)]
    rfl
  · rw [timeText, fixedNumber_eq_none h (by omega)]
    rfl

/-- Digits that end in neither a hyphen nor a colon are no date. -/
theorem dateValue_of_digits (hds : ds.all Char.isDigit = true)
    (hrest : ∀ c, rest.head? = some c → c.isDigit = false) (hminus : rest.head? ≠ some '-')
    (hcolon : rest.head? ≠ some ':') : dateValue (ds ++ rest) = none := by
  refine dateValue_eq_none ?_ ?_
  · rw [dateText]
    cases hyear : fixedNumber 4 0 9999 (ds ++ rest) with
    | none => rfl
    | some p =>
        obtain ⟨ds', hds', hr⟩ := exists_of_fixedNumber_append hds hrest (r := p.2) hyear
        simp only [Option.bind_eq_bind, Option.bind_some]
        rw [hr, after?_append_eq_none hds' rfl hminus]
        rfl
  · rw [timeText]
    cases hhour : fixedNumber 2 0 23 (ds ++ rest) with
    | none => rfl
    | some p =>
        obtain ⟨ds', hds', hr⟩ := exists_of_fixedNumber_append hds hrest (r := p.2) hhour
        simp only [Option.bind_eq_bind, Option.bind_some]
        rw [hr, after?_append_eq_none hds' rfl hcolon]
        rfl

/-! ### Decimal numbers -/

/-- Digits before a point, as a number is written. -/
structure Whole (whole : List Char) : Prop where
  digits : Digits whole
  zero : whole = ['0'] ∨ whole.head? ≠ some '0'

/-- A whole part is read before anything that does not continue it. -/
theorem Whole.wholeDigits_append (h : Whole whole)
    (hrest : ∀ c, rest.head? = some c → c.isDigit = false ∧ c ≠ '_') :
    wholeDigits (whole ++ rest) = some (whole, rest) := by
  rcases h.zero with rfl | hzero
  · rfl
  · obtain ⟨d, ds, hwhole, hd⟩ := h.digits.exists_cons
    rw [wholeDigits, digitRun_append h.digits.2 hrest]
    · exact if_neg h.digits.not_isEmpty
    · rintro cs hcs
      rw [hwhole] at hcs hzero
      cases hcs
      exact hzero rfl

/-- No digit and no underscore follows a number. -/
theorem Stops.not_digitRun (h : Stops rest) {c : Char} (hc : rest.head? = some c) :
    c.isDigit = false ∧ c ≠ '_' :=
  ⟨h.not_isDigit hc, fun hunder => h.head?_ne (c := '_') (by decide) (hunder ▸ hc)⟩

/-- No exponent follows a number. -/
theorem Stops.exponent_eq (h : Stops rest) : exponent rest = some (none, rest) := by
  cases rest with
  | nil => rfl
  | cons c rest =>
      have he : ¬ (decide (c = 'e') || decide (c = 'E')) = true := by
        rw [Bool.or_eq_true, decide_eq_true_eq, decide_eq_true_eq]
        rintro (rfl | rfl)
        · exact h.head?_ne (c := 'e') (by decide) rfl
        · exact h.head?_ne (c := 'E') (by decide) rfl
      exact if_neg he

/-- **A whole number is read up to its end.** -/
theorem decimalNumber_whole (h : Whole whole) (hrest : Stops rest) (negative : Bool) :
    decimalNumber negative (whole ++ rest) =
      if negative then
        if Nat.ofDigitChars 10 whole 0 ≤ Nat.pow 2 63 then
          some (.integer (-(Nat.ofDigitChars 10 whole 0 : Int)), rest) else none
      else if Nat.ofDigitChars 10 whole 0 < Nat.pow 2 63 then
        some (.integer (Nat.ofDigitChars 10 whole 0), rest) else none := by
  have hfraction : fractionDigits rest = some (none, rest) := by
    rw [fractionDigits]
    rintro cs rfl
    exact hrest.head?_ne (c := '.') (by decide) rfl
  rw [decimalNumber, h.wholeDigits_append fun _ => hrest.not_digitRun]
  dsimp only [Option.bind_eq_bind, Option.bind_some]
  rw [hfraction]
  dsimp only [Option.bind_some]
  rw [hrest.exponent_eq]
  dsimp only [Option.bind_some]
  rw [valueOf_ten h.digits.2]

/-- Only a zero reads as zero. -/
theorem zero_eq_of_readsAs {x : Double} (hx : x.isFinite = true) (hreads : x.ReadsAs 0) :
    Binary.zero x.negative = x := by
  have hzero : x.ReadsAs ((0 : Nat) * (10 : ℚ) ^ (0 : Int)) := by simpa using hreads
  exact (congrArg (Binary.mk x.negative) (by decide)).trans (Binary.ofDecimal_eq hx hzero)

/-- The reader makes of digits and their exponent the number that the decimal reads as. Neither
bound of the reader is met: the digits before a point are as many as they are, so the decimal is not
small, and its exponent is not positive. -/
theorem decimal_eq {x : Double} (hx : x.isFinite = true) {places : Nat}
    (hds : ds.all Char.isDigit = true) (hplaces : places ≤ ds.length)
    (hreads : x.ReadsAs (Nat.ofDigitChars 10 ds 0 * (10 : ℚ) ^ (-(places : Int)))) :
    (if valueOf 10 ds = 0 then Binary.zero x.negative
      else if (0 : Int) - places + (ds.length : Int) < -400 then Binary.zero x.negative
      else Binary.ofDecimal x.negative (valueOf 10 ds) (min ((0 : Int) - places) 1000)) = x := by
  rw [if_neg (show ¬ (0 : Int) - places + (ds.length : Int) < -400 by omega),
    Int.min_eq_left (by omega), Int.zero_sub, valueOf_ten hds]
  split
  · next hdigits =>
    rw [hdigits, Nat.cast_zero, zero_mul] at hreads
    exact zero_eq_of_readsAs hx hreads
  · exact Binary.ofDecimal_eq hx hreads

/-- **A number with a point is read up to its end**, as the decimal of all its digits. -/
theorem decimalNumber_pointed (h : Whole whole) (hplaces : Digits places) (hrest : Stops rest)
    {x : Double} (hx : x.isFinite = true)
    (hreads : x.ReadsAs (Nat.ofDigitChars 10 (whole ++ places) 0 *
      (10 : ℚ) ^ (-(places.length : Int)))) :
    decimalNumber x.negative (whole ++ '.' :: (places ++ rest)) = some (.float x, rest) := by
  have hpoint : ∀ c, ('.' :: (places ++ rest)).head? = some c → c.isDigit = false ∧ c ≠ '_' := by
    rintro c ⟨⟩
    decide
  have hfraction : fractionDigits ('.' :: (places ++ rest)) = some (some places, rest) := by
    rw [fractionDigits, digitRun_append hplaces.2 fun _ => hrest.not_digitRun]
    exact if_neg hplaces.not_isEmpty
  have hall : (whole ++ places).all Char.isDigit = true := by
    rw [List.all_append, h.digits.2, hplaces.2]
    rfl
  have hlength : places.length ≤ (whole ++ places).length := by
    rw [List.length_append]
    exact Nat.le_add_left _ _
  have hbounded : x.isInfinite = false := by
    have hlt : x.magnitude < BinaryFormat.double.infinity := of_decide_eq_true hx
    exact beq_eq_false_iff_ne.2 hlt.ne
  rw [decimalNumber, h.wholeDigits_append hpoint]
  dsimp only [Option.bind_eq_bind, Option.bind_some]
  rw [hfraction]
  dsimp only [Option.bind_some]
  rw [hrest.exponent_eq]
  dsimp only [Option.bind_some, Option.getD_some, Option.getD_none]
  simp only [decimal_eq hx hall hlength hreads, hbounded, Bool.false_and, Bool.false_eq_true,
    if_false]

/-! ### Written numbers -/

/-- The digits of a number are a whole part: the first is zero only if it is alone. -/
theorem whole_digitChars (n : Nat) : Whole (Decimal.digitChars n) :=
  ⟨Json.digits_digitChars n, Json.digitChars_eq_zero_or_head n⟩

/-- **The digits of a number are read as the number.** -/
theorem ofDigitChars_digitChars (n : Nat) : Nat.ofDigitChars 10 (Decimal.digitChars n) 0 = n :=
  Nat.ofDigitChars_ten_toDigits

/-- The sign before a text, if it has one. -/
def sign (negative : Bool) : List Char := if negative then ['-'] else []

/-- The sign before digits is told apart from them. -/
theorem signOf_append (h : Digits ds) (negative : Bool) (rest : List Char) :
    signOf (sign negative ++ (ds ++ rest)) = (negative, ds ++ rest) := by
  obtain ⟨d, ds, rfl, hd⟩ := h.exists_cons
  cases negative with
  | true => rfl
  | false =>
      rw [sign, if_neg Bool.false_ne_true, List.nil_append, List.cons_append, signOf]
      · rintro cs hcs
        exact Json.ne_of_isDigit hd rfl (List.cons.inj hcs).1
      · rintro cs hcs
        exact Json.ne_of_isDigit hd rfl (List.cons.inj hcs).1

/-- A number whose digits do not begin with a zero and a letter is written in no other base. -/
theorem Whole.append_ne_base (h : Whole whole) {c : Char} (hrest : rest.head? ≠ some c)
    (negative : Bool) (cs : List Char) : sign negative ++ (whole ++ rest) ≠ '0' :: c :: cs := by
  rintro hcs
  cases negative with
  | true => cases hcs
  | false =>
      rw [sign, if_neg Bool.false_ne_true, List.nil_append] at hcs
      rcases h.zero with rfl | hzero
      · exact hrest (congrArg List.head? (List.cons.inj hcs).2)
      · obtain ⟨d, ds, rfl, hd⟩ := h.digits.exists_cons
        exact hzero (congrArg some (List.cons.inj hcs).1)

/-- **Digits, with a sign or without, are read as a decimal number** unless a letter follows that
could tell their base. -/
theorem numberValue_of_digits (h : Whole whole)
    (hrest : ∀ c, rest.head? = some c → c ∉ ['x', 'o', 'b']) (negative : Bool) :
    numberValue (sign negative ++ (whole ++ rest)) = decimalNumber negative (whole ++ rest) := by
  have hletter (c : Char) (hc : c ∈ ['x', 'o', 'b']) : rest.head? ≠ some c :=
    fun heq => hrest c heq hc
  rw [numberValue]
  · rw [signOf_append h.digits]
    obtain ⟨d, ds, rfl, hd⟩ := h.digits.exists_cons
    dsimp only [List.cons_append]
    split
    · next hcs => exact absurd (List.cons.inj hcs).1 (Json.ne_of_isDigit hd rfl)
    · next hcs => exact absurd (List.cons.inj hcs).1 (Json.ne_of_isDigit hd rfl)
    · rfl
  · exact h.append_ne_base (hletter 'x' (by decide)) negative
  · exact h.append_ne_base (hletter 'o' (by decide)) negative
  · exact h.append_ne_base (hletter 'b' (by decide)) negative

/-- An integer is written with a minus if it is negative, and with the digits of its size. -/
theorem toList_intText (n : Int) :
    (Decimal.intText n).toList = sign (decide (n < 0)) ++ Decimal.digitChars n.natAbs := by
  rw [Decimal.intText]
  split
  · next hneg =>
    rw [decide_eq_true hneg, String.toList_append, show "-".toList = sign true from rfl,
      Decimal.natText, String.toList_ofList]
  · next hnonneg =>
    rw [decide_eq_false hnonneg, Decimal.natText, String.toList_ofList]
    rfl

/-- **An integer is read back** if it fits 64 bits with a sign. -/
theorem numberValue_intText {n : Int} (hlow : -(2 ^ 63) ≤ n) (hhigh : n < 2 ^ 63)
    (hrest : Stops rest) :
    numberValue ((Decimal.intText n).toList ++ rest) = some (.integer n, rest) := by
  have hpow : Nat.pow 2 63 = 2 ^ 63 := rfl
  have hbase : ∀ c, rest.head? = some c → c ∉ ['x', 'o', 'b'] := fun c hc hmem => by
    have hstop := hrest c hc
    simp only [List.mem_cons, List.not_mem_nil, or_false] at hstop hmem
    rcases hmem with rfl | rfl | rfl <;> simp at hstop
  rw [toList_intText, List.append_assoc, numberValue_of_digits (whole_digitChars _) hbase,
    decimalNumber_whole (whole_digitChars _) hrest, ofDigitChars_digitChars]
  by_cases hneg : n < 0
  · rw [if_pos (decide_eq_true hneg), if_pos (by omega), show -(n.natAbs : Int) = n by omega]
  · rw [if_neg (by simpa using hneg), if_pos (by omega), show (n.natAbs : Int) = n by omega]

/-- Zeros behind a number multiply it by a power of ten. -/
theorem ofDigitChars_replicate (k n : Nat) :
    Nat.ofDigitChars 10 (List.replicate k '0') n = n * 10 ^ k := by
  induction k generalizing n with
  | zero => simp
  | succ k ih =>
      rw [List.replicate_succ, Nat.ofDigitChars_cons, ih, Nat.pow_succ]
      simp only [Nat.sub_self, Nat.add_zero]
      ring

/-- Digits with zeros before or behind them are digits. -/
theorem digits_replicate (k : Nat) {ds : List Char} (h : Digits ds) :
    Digits (ds ++ List.replicate k '0') ∧ Digits (List.replicate k '0' ++ ds) := by
  have hzeros : (List.replicate k '0').all Char.isDigit = true := by simp
  constructor
  · exact ⟨by simp [h.1], by rw [List.all_append, h.2, hzeros]; rfl⟩
  · exact ⟨by simp [h.1], by rw [List.all_append, h.2, hzeros]; rfl⟩

/-- A zero alone is a whole part. -/
theorem whole_zero : Whole ['0'] := ⟨⟨by simp, rfl⟩, .inl rfl⟩

/-- A number other than zero followed by zeros. -/
theorem whole_append_zeros {n : Nat} (hn : n ≠ 0) (k : Nat) :
    Whole (Decimal.digitChars n ++ List.replicate k '0') := by
  have hdigits := Json.digits_digitChars n
  refine ⟨(digits_replicate k hdigits).1, .inr ?_⟩
  rw [List.head?_append_of_ne_nil _ hdigits.1]
  rcases Json.digitChars_eq_zero_or_head n with h | h
  · have hvalue := ofDigitChars_digitChars n
    rw [h] at hvalue
    exact absurd hvalue.symm hn
  · exact h

/-- The first digits of a number that has more of them. -/
theorem whole_take {n k : Nat} (hpos : 0 < k) (hk : k < (Decimal.digitChars n).length) :
    Whole ((Decimal.digitChars n).take k) := by
  have hdigits := Json.digits_digitChars n
  refine ⟨⟨?_, ?_⟩, ?_⟩
  · rw [← List.length_pos_iff, List.length_take]
    omega
  · exact List.all_eq_true.2 fun c hc => List.all_eq_true.1 hdigits.2 c (List.mem_of_mem_take hc)
  · rcases Json.digitChars_eq_zero_or_head n with h | h
    · rw [h, List.length_singleton] at hk
      omega
    · rw [List.head?_take, if_neg hpos.ne']
      exact .inr h

/-- What is left of digits are digits, as long as something is left. -/
theorem digits_drop (h : Digits ds) {k : Nat} (hk : k < ds.length) : Digits (ds.drop k) := by
  refine ⟨?_, ?_⟩
  · rw [← List.length_pos_iff, List.length_drop]
    omega
  · exact List.all_eq_true.2 fun c hc => List.all_eq_true.1 h.2 c (List.mem_of_mem_drop hc)

/-- The text of a decimal with a point has digits before and after it, which stand for the
decimal. -/
theorem exists_pointed (d : Decimal) :
    ∃ whole places, Whole whole ∧ Digits places ∧ d.pointed = whole ++ '.' :: places ∧
      Nat.ofDigitChars 10 (whole ++ places) 0 * (10 : ℚ) ^ (-(places.length : Int)) =
        d.digits * (10 : ℚ) ^ d.exponent := by
  obtain ⟨digits, exponent⟩ := d
  have hdigits := Json.digits_digitChars digits
  rw [Decimal.pointed, Decimal.positional]
  dsimp only
  by_cases he : 0 ≤ exponent
  · simp only [if_pos he]
    by_cases hzero : digits = 0
    · refine ⟨['0'], ['0'], whole_zero, whole_zero.digits, by rw [if_pos hzero], ?_⟩
      have hvalue : Nat.ofDigitChars 10 (['0'] ++ ['0']) 0 = 0 := by decide
      rw [hzero, hvalue, Nat.cast_zero, zero_mul, zero_mul]
    · refine ⟨Decimal.digitChars digits ++ List.replicate exponent.toNat '0', ['0'],
        whole_append_zeros hzero _, whole_zero.digits, by rw [if_neg hzero], ?_⟩
      have hten : ((10 : Nat) : ℚ) = 10 := rfl
      have hlast : Nat.ofDigitChars 10 ['0'] (digits * 10 ^ exponent.toNat) =
          digits * 10 ^ exponent.toNat * 10 := ofDigitChars_replicate 1 _
      rw [Nat.ofDigitChars_append, Nat.ofDigitChars_append, ofDigitChars_digitChars,
        ofDigitChars_replicate, hlast, ← hten, BinaryFormat.zpow_of_nonneg 10 he]
      simp
  · obtain ⟨p, hp⟩ : ∃ p, p = (-exponent).toNat := ⟨_, rfl⟩
    have hexponent : exponent = -(p : Int) := by omega
    simp only [if_neg he, ← hp]
    by_cases hshort : p < (Decimal.digitChars digits).length
    · refine ⟨_, _, whole_take (by omega) (by omega), digits_drop hdigits (by omega),
        if_pos hshort, ?_⟩
      rw [List.take_append_drop, ofDigitChars_digitChars, List.length_drop, hexponent]
      congr 3
      omega
    · refine ⟨['0'], List.replicate (p - (Decimal.digitChars digits).length) '0' ++
        Decimal.digitChars digits, whole_zero, (digits_replicate _ hdigits).2, if_neg hshort, ?_⟩
      have hfirst : Nat.ofDigitChars 10 ['0'] 0 = 0 := by decide
      rw [Nat.ofDigitChars_append, hfirst, Nat.ofDigitChars_append, ofDigitChars_replicate,
        Nat.zero_mul, ofDigitChars_digitChars, List.length_append, List.length_replicate,
        Nat.sub_add_cancel (not_lt.1 hshort), hexponent]

/-- How a floating-point number reads back: numbers that are undefined are all alike. -/
def rereadFloat (x : Double) : Double :=
  if x.isUndefined then ⟨false, BinaryFormat.double.infinity + Nat.pow 2 51⟩ else x

/-- A finite number comes back as it was. -/
theorem rereadFloat_of_isFinite {x : Double} (hx : x.isFinite = true) : rereadFloat x = x := by
  have hlt : x.magnitude < BinaryFormat.double.infinity := of_decide_eq_true hx
  exact if_neg (by simp [Binary.isUndefined, hlt.le])

/-- A number that comes back is finite exactly if it was. -/
theorem isFinite_rereadFloat (x : Double) : (rereadFloat x).isFinite = x.isFinite := by
  rw [rereadFloat]
  split
  · next h =>
    have hlt : BinaryFormat.double.infinity < x.magnitude := of_decide_eq_true h
    have hfinite : x.isFinite = false := decide_eq_false (not_lt.2 hlt.le)
    rw [hfinite]
    decide
  · rfl

/-- A finite number is written with its sign and its shortest digits. -/
theorem floatForm_of_isFinite {x : Double} (hx : x.isFinite = true) :
    floatForm x = sign x.negative ++ x.shortest.pointed := by
  have hlt : x.magnitude < BinaryFormat.double.infinity := of_decide_eq_true hx
  have hdefined : ¬ x.isUndefined = true := by simp [Binary.isUndefined, hlt.le]
  have hbounded : ¬ x.isInfinite = true := by simp [Binary.isInfinite, hlt.ne]
  have hiff := x.shortest_exponent_iff (by decide)
  rw [floatForm, if_neg hdefined]
  dsimp only
  rw [if_neg hbounded, List.append_assoc, Decimal.pointed, sign]
  by_cases hwhole : x.isWhole = true
  · rw [if_pos hwhole, if_pos (hiff.2 hwhole)]
  · rw [if_neg hwhole, if_neg (fun h => hwhole (hiff.1 h)), List.append_nil]

/-- **A floating-point number is read back.** -/
theorem numberValue_floatForm (x : Double) (hrest : Stops rest) :
    numberValue (floatForm x ++ rest) = some (.float (rereadFloat x), rest) := by
  by_cases hx : x.isFinite = true
  · have hlt : x.magnitude < BinaryFormat.double.infinity := of_decide_eq_true hx
    have hdefined : ¬ x.isUndefined = true := by simp [Binary.isUndefined, hlt.le]
    obtain ⟨whole, places, hwhole, hplaces, htext, hvalue⟩ := exists_pointed x.shortest
    have hreads := x.shortest_readsAs (by decide)
    rw [← hvalue] at hreads
    have hbase : ∀ c, ('.' :: (places ++ rest)).head? = some c → c ∉ ['x', 'o', 'b'] := by
      rintro c ⟨⟩
      decide
    rw [floatForm_of_isFinite hx, htext, rereadFloat, if_neg hdefined, List.append_assoc,
      List.append_assoc, List.cons_append, numberValue_of_digits hwhole hbase,
      decimalNumber_pointed hwhole hplaces hrest hx hreads]
  · have hge : BinaryFormat.double.infinity ≤ x.magnitude := not_lt.1 fun h => hx (decide_eq_true h)
    obtain ⟨negative, magnitude⟩ := x
    rw [floatForm, rereadFloat]
    split
    · rfl
    · next hdefined =>
      obtain rfl : magnitude = BinaryFormat.double.infinity := by
        simp only [Binary.isUndefined, decide_eq_true_eq, not_lt] at hdefined
        exact le_antisymm hdefined hge
      have hinfinite : (⟨negative, BinaryFormat.double.infinity⟩ : Double).isInfinite = true :=
        beq_self_eq_true _
      simp only [if_pos hinfinite]
      cases negative <;> rfl

/-! ### Numbers among the values -/

/-- The text begins as a number does, and no date does. -/
structure Numeral (cs : List Char) : Prop where
  head : ∃ c rest, cs = c :: rest ∧ (c.isDigit = true ∨ c ∈ ['-', 'i', 'n'])
  date : dateValue cs = none

/-- A text that begins with a sign or a letter is no date. -/
theorem numeral_cons {c : Char} (hc : c ∈ ['-', 'i', 'n']) (cs : List Char) :
    Numeral (c :: cs) := by
  refine ⟨⟨c, cs, rfl, .inr hc⟩, dateValue_of_head ?_⟩
  rintro _ ⟨⟩
  simp only [List.mem_cons, List.not_mem_nil, or_false] at hc
  rcases hc with rfl | rfl | rfl <;> rfl

/-- Digits are no date, with a sign or without, unless they end in a hyphen or a colon. -/
theorem Whole.numeral (h : Whole whole) (hrest : ∀ c, rest.head? = some c → c.isDigit = false)
    (hminus : rest.head? ≠ some '-') (hcolon : rest.head? ≠ some ':') (negative : Bool) :
    Numeral (sign negative ++ (whole ++ rest)) := by
  cases negative with
  | true => exact numeral_cons (by decide) _
  | false =>
      obtain ⟨d, ds, hwhole, hd⟩ := h.digits.exists_cons
      have hdate : dateValue (whole ++ rest) = none :=
        dateValue_of_digits h.digits.2 hrest hminus hcolon
      exact ⟨⟨d, ds ++ rest, by rw [hwhole]; rfl, .inl hd⟩, hdate⟩

/-- The text of an integer is a numeral. -/
theorem numeral_intText (n : Int) (hrest : Stops rest) :
    Numeral ((Decimal.intText n).toList ++ rest) := by
  rw [toList_intText, List.append_assoc]
  exact (whole_digitChars _).numeral (fun _ => hrest.not_isDigit) (hrest.head?_ne (by decide))
    (hrest.head?_ne (by decide)) _

/-- The text of a number is a numeral. -/
theorem numeral_floatForm (x : Double) (rest : List Char) : Numeral (floatForm x ++ rest) := by
  by_cases hx : x.isFinite = true
  · obtain ⟨whole, places, hwhole, -, htext, -⟩ := exists_pointed x.shortest
    rw [floatForm_of_isFinite hx, htext, List.append_assoc, List.append_assoc, List.cons_append]
    refine hwhole.numeral ?_ (by simp) (by simp) x.negative
    rintro c ⟨⟩
    rfl
  · have hge : BinaryFormat.double.infinity ≤ x.magnitude := not_lt.1 fun h => hx (decide_eq_true h)
    rw [floatForm]
    split
    · exact numeral_cons (by decide) _
    · next hdefined =>
      have hinfinite : x.isInfinite = true := by
        simp only [Binary.isUndefined, decide_eq_true_eq, not_lt] at hdefined
        exact beq_iff_eq.2 (le_antisymm hdefined hge)
      simp only [if_pos hinfinite]
      cases x.negative with
      | true => exact numeral_cons (by decide) _
      | false => exact numeral_cons (by decide) _

/-- Where a number begins, a number is read. -/
theorem Numeral.value_eq {cs : List Char} (h : Numeral cs) (fuel depth : Nat) :
    value (fuel + 1) depth cs = numberValue cs := by
  obtain ⟨⟨c, rest, rfl, hc⟩, hdate⟩ := h
  have hne (d : Char) (hd : d.isDigit = false) (hd' : d ∉ ['-', 'i', 'n']) : c ≠ d := by
    rintro rfl
    rcases hc with hc | hc
    · exact absurd hc (by rw [hd]; decide)
    · exact hd' hc
  rw [value]
  · rw [hdate]
  · rintro cs hcs
    exact hne '"' rfl (by decide) (List.cons.inj hcs).1
  · rintro cs hcs
    exact hne '\'' rfl (by decide) (List.cons.inj hcs).1
  · rintro cs hcs
    exact hne '[' rfl (by decide) (List.cons.inj hcs).1
  · rintro cs hcs
    exact hne '\x7b' rfl (by decide) (List.cons.inj hcs).1
  · rintro cs hcs
    exact hne 't' rfl (by decide) (List.cons.inj hcs).1
  · rintro cs hcs
    exact hne 'f' rfl (by decide) (List.cons.inj hcs).1

end Scenarist.Toml
