import Scenarist.Proofs.Json.Printer
import Scenarist.Json.Record

/-!
# What Is Read of a Written Value

A value that was written is read back (`parse?_of_spells`); this module says what a reader then
finds in it. A whole number is spelled by its digits as long as it fits 64 bits. The value of a
member is that of the last member with its key, wherever the order of the keys has put it. The items
of an array are read one by one.

How deep a value may be is exact: one bracket too many, wherever it stands, and nothing is read of
the whole text (`parse?_isSome_iff`).

## Main results

* `spells_natText`: **a whole number is spelled by its text**.
* `lookup_canonicalMembers`: the last of several members with one key counts.
* `parse?_isSome_iff`: **a text is read exactly if its brackets are not too deep**.
-/

namespace Scenarist.Json

/-! ### Whole numbers -/

/-- Reading more digits makes a number no smaller. -/
theorem le_ofDigitChars (n : Nat) (cs : List Char) : n ≤ Nat.ofDigitChars 10 cs n := by
  rw [Nat.ofDigitChars_eq_ofDigitChars_zero]
  have hpos : 1 ≤ 10 ^ cs.length := Nat.one_le_pow _ _ (by omega)
  have hmul : 1 * n ≤ 10 ^ cs.length * n := Nat.mul_le_mul_right n hpos
  omega

/-- Digits are taken to the last one as long as the number fits 64 bits. -/
theorem takeDigits_of_lt {n : Nat} {cs : List Char}
    (h : Nat.ofDigitChars 10 cs n < Nat.pow 2 64) :
    takeDigits n cs = (Nat.ofDigitChars 10 cs n, []) := by
  induction cs generalizing n with
  | nil => simp [takeDigits]
  | cons c cs ih =>
      rw [Nat.ofDigitChars_cons] at h
      have hnext : 10 * n + digitValue c < Nat.pow 2 64 :=
        Nat.lt_of_le_of_lt (le_ofDigitChars _ cs) h
      rw [takeDigits, if_pos hnext, Nat.ofDigitChars_cons]
      exact ih h

/-- A number is written without a zero before its other digits. -/
theorem digitChars_eq_zero_or_head (n : Nat) :
    Decimal.digitChars n = ['0'] ∨ (Decimal.digitChars n).head? ≠ some '0' := by
  rw [Decimal.digitChars]
  induction n using Nat.strongRecOn with
  | ind n ih =>
      by_cases hn : n < 10
      · rw [Nat.toDigits_of_lt_base hn]
        by_cases hzero : n = 0
        · subst hzero
          exact .inl rfl
        · exact .inr (by simpa using hzero)
      · have hlt : n / 10 < n := by omega
        have hne : n / 10 ≠ 0 := by omega
        rw [Nat.toDigits_of_base_le (by omega) (by omega)]
        refine .inr ?_
        rw [List.head?_append_of_ne_nil _ Nat.toDigits_ne_nil]
        rcases ih _ hlt with h | h
        · have hvalue := congrArg (Nat.ofDigitChars 10 · 0) h
          simp only [Nat.ofDigitChars_ten_toDigits] at hvalue
          exact absurd hvalue hne
        · exact h

/-- A number is written in digits, of which there is one at least. -/
theorem digits_digitChars (n : Nat) : Digits (Decimal.digitChars n) :=
  ⟨Nat.toDigits_ne_nil, List.all_eq_true.2 fun _ hc => Decimal.isDigit_of_mem_digitChars hc⟩

/-- The digits of a number are a number in JSON: the first is zero only if it is alone. -/
theorem isNumber_digitChars (n : Nat) : IsNumber (Decimal.digitChars n) := by
  have h := IsNumber.mk (.inl rfl) (digits_digitChars n) (digitChars_eq_zero_or_head n) .none .none
  simpa using h

/-- **The digits of a number are read as the number** if it has a place in 64 bits. -/
theorem numberValue_digitChars {n : Nat} (h : n < Nat.pow 2 64) :
    numberValue (Decimal.digitChars n) = some (.natural n) := by
  have hstop : ∀ c, ([] : List Char).head? = some c → c.isDigit = false := by simp
  have hwhole := wholePart_append (digits_digitChars n) (digitChars_eq_zero_or_head n) hstop
  have hvalue : Nat.ofDigitChars 10 (Decimal.digitChars n) 0 = n := Nat.ofDigitChars_ten_toDigits
  have htake : takeDigits 0 (Decimal.digitChars n) = (n, []) := by
    have hlt : Nat.ofDigitChars 10 (Decimal.digitChars n) 0 < Nat.pow 2 64 := by rwa [hvalue]
    rw [takeDigits_of_lt hlt, hvalue]
  have hunsigned : unsignedNumber false (Decimal.digitChars n) = some (some (.natural n), []) := by
    rw [List.append_nil] at hwhole
    simp [unsignedNumber, hwhole, fractionPart, exponentPart, wholeValue, htake]
  obtain ⟨d, ds, hdigits, hd⟩ := (digits_digitChars n).exists_cons
  have hminus := ne_of_isDigit hd (d := '-') rfl
  rw [numberValue, numberToken]
  · rw [hunsigned]
    rfl
  · rintro cs heq
    rw [hdigits] at heq
    cases heq
    exact hminus rfl

/-- **A whole number is spelled by its text**, if it fits 64 bits. -/
theorem spells_natText {n : Nat} (h : n < Nat.pow 2 64) :
    Spells (.number (some (.natural n))) (Decimal.natText n).toList := by
  rw [Decimal.natText, String.toList_ofList, ← numberValue_digitChars h]
  exact .number (isNumber_digitChars n)

/-- A natural number in the range is printable. -/
theorem printable_nat {n : Nat} (h : n < Nat.pow 2 64) (m : Nat) : Printable m (.nat n) :=
  ⟨spells_natText h, by cases m <;> exact trivial⟩

/-- A truth value is printable. -/
theorem printable_bool (b : Bool) (m : Nat) : Printable m (.bool b) :=
  ⟨trivial, by cases m <;> exact trivial⟩

/-! ### Members and items -/

/-- A member under another key is passed over. -/
theorem lookup_cons_of_ne {key k : String} (h : key ≠ k) (v : Json)
    (members : List (String × Json)) : ((k, v) :: members).lookup key = members.lookup key := by
  have hbeq : (key == k) = false := beq_false_of_ne h
  rw [List.lookup_cons, hbeq]

/-- Under the key of an inserted member its value is found, and under any other what was there. -/
theorem lookup_insertMember (key k : String) (v : Json) (members : List (String × Json)) :
    (insertMember k v members).lookup key = if key = k then some v else members.lookup key := by
  induction members with
  | nil => by_cases h : key = k <;> simp [insertMember, lookup_cons_of_ne, h]
  | cons m ms ih =>
      obtain ⟨k', v'⟩ := m
      rw [insertMember]
      split
      · by_cases h : key = k <;> simp [lookup_cons_of_ne, h]
      · split
        · next hkk =>
          subst hkk
          by_cases h : key = k <;> simp [lookup_cons_of_ne, h]
        · next hkk =>
          by_cases hk' : key = k'
          · subst hk'
            simp [Ne.symm hkk]
          · rw [lookup_cons_of_ne hk', lookup_cons_of_ne hk', ih]

/-- **The last of several members with one key counts.** -/
theorem lookup_canonicalMembers (key : String) (sorted members : List (String × Json)) :
    (canonicalMembers sorted members).lookup key =
      ((members.reverse.lookup key).map canonical).or (sorted.lookup key) := by
  induction members generalizing sorted with
  | nil => rfl
  | cons m ms ih =>
      obtain ⟨k, v⟩ := m
      rw [canonicalMembers, ih, lookup_insertMember, List.reverse_cons, List.lookup_append]
      cases ms.reverse.lookup key with
      | some w => rfl
      | none => by_cases h : key = k <;> simp [lookup_cons_of_ne, h]

/-- A complete string is read as its text. -/
@[simp] theorem asText_string (s : String) : Document.asText (.string (some s)) = .ok s := rfl

/-- What is read of each item is read of the array. -/
theorem readItems_map {α : Type} {read : Document → Reading α} {f : α → Json} {items : List α}
    (h : ∀ x ∈ items, read (.ofJson (f x)) = .ok x) :
    Document.readItems read (Document.ofJsonItems (items.map f)) = .ok items := by
  induction items with
  | nil => rfl
  | cons x items ih =>
      rw [List.forall_mem_cons] at h
      rw [List.map_cons, Document.ofJsonItems, Document.readItems, h.1, ih h.2]
      rfl

/-- An array is read item by item. -/
theorem asList_array {α : Type} {read : Document → Reading α} {f : α → Json} {items : List α}
    (h : ∀ x ∈ items, read (.ofJson (f x)) = .ok x) :
    (Document.ofJson (.array (items.map f))).asList read = .ok items := by
  rw [Document.ofJson, Document.asList, readItems_map h]
  rfl

/-! ### The depth of a value -/

section

open Document

variable {n depth : Nat}

/-- Nothing is read of items one of which is too deep. -/
theorem toJsonItems?_limited_eq_none
    (hdeep : ∀ v, ¬ FitsIn n v → ((ofJson v).limited depth).toJson? = none) {items : List Json}
    (h : ¬ ∀ v ∈ items, FitsIn n v) :
    toJsonItems? (limitedItems depth (ofJsonItems items)) = none := by
  induction items with
  | nil => exact absurd (List.forall_mem_nil _) h
  | cons v vs ih =>
      rw [ofJsonItems, limitedItems, toJsonItems?]
      by_cases hv : FitsIn n v
      · rw [ih fun hall => h (List.forall_mem_cons.2 ⟨hv, hall⟩)]
        cases ((ofJson v).limited depth).toJson? <;> rfl
      · rw [hdeep v hv]
        rfl

/-- Nothing is read of members one of which is too deep. -/
theorem toJsonMembers?_limited_eq_none
    (hdeep : ∀ v, ¬ FitsIn n v → ((ofJson v).limited depth).toJson? = none)
    {members : List (String × Json)} (h : ¬ ∀ m ∈ members, FitsIn n m.2)
    (sorted : List (String × Json)) :
    toJsonMembers? sorted (limitedMembers depth (ofJsonMembers members)) = none := by
  induction members generalizing sorted with
  | nil => exact absurd (List.forall_mem_nil _) h
  | cons m ms ih =>
      rw [ofJsonMembers, limitedMembers, toJsonMembers?]
      by_cases hm : FitsIn n m.2
      · have hrest := ih fun hall => h (List.forall_mem_cons.2 ⟨hm, hall⟩)
        cases ((ofJson m.2).limited depth).toJson? with
        | none => rfl
        | some v => exact hrest _
      · rw [hdeep m.2 hm]
        rfl

/-- Nothing is read of a value with too many brackets inside each other. -/
theorem toJson?_limited_eq_none {v : Json} (h : ¬ FitsIn n v) (hdepth : depth + n = depthLimit) :
    ((ofJson v).limited depth).toJson? = none := by
  induction n generalizing depth v with
  | zero =>
      have hlimit : ¬ depth < depthLimit := by omega
      cases v with
      | null | bool | number | string => exact absurd trivial h
      | array items => rw [ofJson, limited, nested, if_neg hlimit, toJson?] <;> simp
      | object members => rw [ofJson, limited, nested, if_neg hlimit, toJson?] <;> simp
  | succ n ih =>
      have hlimit : depth < depthLimit := by omega
      have hdeep : ∀ v, ¬ FitsIn n v → ((ofJson v).limited (depth + 1)).toJson? = none :=
        fun _ hv => ih hv (by omega)
      cases v with
      | null | bool | number | string => exact absurd trivial h
      | array items =>
          rw [ofJson, limited, nested, if_pos hlimit, toJson?, toJsonItems?_limited_eq_none hdeep h]
          rfl
      | object members =>
          rw [ofJson, limited, nested, if_pos hlimit, toJson?,
            toJsonMembers?_limited_eq_none hdeep h]
          rfl

end

/-- A text is read as the value that it spells, blanks around it included. -/
theorem parse?_of_spellsText_ofJson {v : Json} {cs : List Char} (h : SpellsText (.ofJson v) cs)
    (hfits : FitsIn Document.depthLimit v) : parse? (String.ofList cs) = some v.canonical := by
  rw [parse?_of_spellsText h, limited_ofJson hfits (Nat.le_of_eq (Nat.zero_add _)), toJson?_ofJson]

/-- **A text that spells a value is read exactly if the brackets of the value are not too deep.** -/
theorem parse?_isSome_iff {v : Json} {cs : List Char} (h : SpellsText (.ofJson v) cs) :
    (parse? (String.ofList cs)).isSome = true ↔ FitsIn Document.depthLimit v := by
  constructor
  · intro hsome
    by_contra hdeep
    rw [parse?_of_spellsText h, toJson?_limited_eq_none hdeep (Nat.zero_add _)] at hsome
    cases hsome
  · intro hfits
    rw [parse?_of_spellsText_ofJson h hfits]
    rfl

end Scenarist.Json
