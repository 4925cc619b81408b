import Scenarist.Proofs.Json.Document
import Scenarist.Json.Printer

/-!
# The Texts of JSON Values

The two printers against the grammar and the reader: the compact and the indented text of a value
spell it (`spells_compact`, `spells_indented`), and a text that spells a value is read back as the
value (`parse?_of_spells`). What is read back has the members of each object in the order of their
keys (`Json.canonical`), for that is how a value without a known shape is kept.

A literal is read back one character at a time, and no character of it is left out of the argument:
it is written by a letter after a backslash, by its number, or as it is (`escapeChar_cases`). That
a number is spelled by its text is taken as given (`Legible`), which asks nothing of a value
without numbers.

## Main results

* `literalValue_escaped`: **an escaped text stands for the text**, whatever it is.
* `spells_compact`, `spells_indented`: the texts of a value spell it.
* `parse?_of_spells`: **a text that spells a value is read as the value**.
-/

namespace Scenarist.Json

/-! ### Literals -/

/-- The digit of a number below sixteen is a hexadecimal digit. -/
theorem isHexDigit_hexDigit : ∀ n < 16, Text.isHexDigit (hexDigit n) = true := by decide

/-- The digit of a number below sixteen is worth that number. -/
theorem hexValue?_hexDigit_lower : ∀ n < 16, Text.hexValue? (hexDigit n) = some n := by decide

/-- The four digits that are written for a control character are its number. -/
theorem hex4?_control {c : Char} (hc : c.toNat < 32) :
    hex4? '0' '0' (hexDigit (c.toNat / 16)) (hexDigit (c.toNat % 16)) = some c.toNat := by
  have hhigh := hexValue?_hexDigit_lower (c.toNat / 16) (by omega)
  have hlow := hexValue?_hexDigit_lower (c.toNat % 16) (by omega)
  have hzero : Text.hexValue? '0' = some 0 := by decide
  have hdiv : c.toNat / 16 < 16 := by omega
  have hmod : c.toNat % 16 < 16 := by omega
  have hsum : c.toNat / 16 * 16 + c.toNat % 16 = c.toNat := by omega
  simp [hex4?, Text.numberIn?, hhigh, hlow, hzero, hdiv, hmod, hsum]

/-- A character is written by a letter after a backslash, by its number, or as it is. -/
theorem escapeChar_cases (c : Char) :
    (∃ e, escapeChar c = ['\\', e] ∧ e ∈ "\"\\/bfnrt".toList ∧ simpleEscape? e = some c) ∨
      (c.toNat < 32 ∧ escapeChar c =
        ['\\', 'u', '0', '0', hexDigit (c.toNat / 16), hexDigit (c.toNat % 16)]) ∨
      (c ≠ '"' ∧ c ≠ '\\' ∧ 32 ≤ c.toNat ∧ escapeChar c = [c]) := by
  by_cases hquote : c = '"'
  · subst hquote
    exact .inl ⟨'"', rfl, by decide, rfl⟩
  by_cases hslash : c = '\\'
  · subst hslash
    exact .inl ⟨'\\', rfl, by decide, rfl⟩
  by_cases hfeed : c = '\n'
  · subst hfeed
    exact .inl ⟨'n', rfl, by decide, rfl⟩
  by_cases hreturn : c = '\r'
  · subst hreturn
    exact .inl ⟨'r', rfl, by decide, rfl⟩
  by_cases htab : c = '\t'
  · subst htab
    exact .inl ⟨'t', rfl, by decide, rfl⟩
  by_cases hback : c.toNat = 8
  · obtain rfl : c = Char.ofNat 8 := by rw [← hback, Char.ofNat_toNat]
    exact .inl ⟨'b', rfl, by decide, rfl⟩
  by_cases hform : c.toNat = 12
  · obtain rfl : c = Char.ofNat 12 := by rw [← hform, Char.ofNat_toNat]
    exact .inl ⟨'f', rfl, by decide, rfl⟩
  rw [escapeChar, if_neg hquote, if_neg hslash, if_neg hfeed, if_neg hreturn, if_neg htab,
    if_neg hback, if_neg hform]
  by_cases hcontrol : c.toNat < 32
  · exact .inr (.inl ⟨hcontrol, if_pos hcontrol⟩)
  · exact .inr (.inr ⟨hquote, hslash, Nat.le_of_not_lt hcontrol, if_neg hcontrol⟩)

/-- An escaped character may come first in a literal, whatever comes after it. -/
theorem literalBody_escapeChar (c : Char) {cs : List Char} (h : LiteralBody cs) :
    LiteralBody (escapeChar c ++ cs) := by
  rcases escapeChar_cases c with ⟨e, heq, he, -⟩ | ⟨hlt, heq⟩ | ⟨hquote, hslash, hcontrol, heq⟩
  · rw [heq]
    exact h.escape he
  · rw [heq]
    have hhigh := isHexDigit_hexDigit (c.toNat / 16) (by omega)
    have hlow := isHexDigit_hexDigit (c.toNat % 16) (by omega)
    refine h.code ?_
    simp only [List.all_cons, List.all_nil, hhigh, hlow]
    decide
  · rw [heq]
    exact h.plain hquote hslash hcontrol

/-- **An escaped character is read back as the character.** No control character is half of a pair,
so none is waited for. -/
theorem stringRest_escapeChar (c : Char) (acc cs : List Char) :
    stringRest (some acc) none (escapeChar c ++ cs) = stringRest (some (c :: acc)) none cs := by
  rcases escapeChar_cases c with ⟨e, heq, he, hc⟩ | ⟨hlt, heq⟩ | ⟨hquote, hslash, hcontrol, heq⟩
  · rw [heq, List.cons_append, List.cons_append, List.nil_append, stringRest, hc]
    · rfl
    · rintro _ _ _ _ _ rfl
      exact absurd rfl (exists_simpleEscape? he).1
  · have hhigh : isHighHalf c.toNat = false := by
      simp only [isHighHalf, Bool.and_eq_false_iff, decide_eq_false_iff_not]
      omega
    have hlow : isLowHalf c.toNat = false := by
      simp only [isLowHalf, Bool.and_eq_false_iff, decide_eq_false_iff_not]
      omega
    simp only [heq, List.cons_append, List.nil_append]
    rw [stringRest, hex4?_control hlt]
    simp [hhigh, hlow, push, Char.ofNat_toNat]
  · rw [heq, List.cons_append, List.nil_append, stringRest, if_neg hquote]
    · have hplain : ¬ c.toNat < 32 := by omega
      simp [hslash, hplain, push]
    all_goals simp [hslash]

/-- An escaped text is the body of a literal. -/
theorem literalBody_escaped (cs : List Char) : LiteralBody (cs.flatMap escapeChar) := by
  induction cs with
  | nil => exact .nil
  | cons c cs ih =>
      rw [List.flatMap_cons]
      exact literalBody_escapeChar c ih

/-- An escaped text is read up to the quote after it, and as the text. -/
theorem stringRest_escaped (cs acc rest : List Char) :
    stringRest (some acc) none (cs.flatMap escapeChar ++ '"' :: rest) =
      some (some (String.ofList (acc.reverse ++ cs)), rest) := by
  induction cs generalizing acc with
  | nil =>
      rw [List.flatMap_nil, List.nil_append, List.append_nil, stringRest]
      · exact if_pos rfl
      all_goals simp
  | cons c cs ih =>
      rw [List.flatMap_cons, List.append_assoc, stringRest_escapeChar, ih]
      simp

/-- **An escaped text stands for the text**, whatever it is. -/
theorem literalValue_escaped (s : String) :
    literalValue (s.toList.flatMap escapeChar) = some s := by
  rw [literalValue, stringToken, stringRest_escaped]
  simp

/-! ### Values -/

mutual

/-- The numbers of the value are spelled by their texts. -/
def Legible : Json → Prop
  | .number n => Spells (.number (some n)) n.text.toList
  | .array items => LegibleItems items
  | .object members => LegibleMembers members
  | _ => True

/-- The numbers of the items are spelled by their texts. -/
def LegibleItems : List Json → Prop
  | [] => True
  | v :: vs => Legible v ∧ LegibleItems vs

/-- The numbers of the members are spelled by their texts. -/
def LegibleMembers : List (String × Json) → Prop
  | [] => True
  | (_, v) :: ms => Legible v ∧ LegibleMembers ms

end

/-- The literal of a text spells it. -/
theorem spells_literal (s : String) : Spells (.string (some s)) (literal s) := by
  have h := Spells.string (literalBody_escaped s.toList)
  rw [literalValue_escaped] at h
  exact h

/-- No blanks are blanks. -/
theorem blanks_nil : Blanks [] := rfl

/-- What spells a document does so with no blanks around it. -/
theorem Spells.text {d : Document} {cs : List Char} (h : Spells d cs) : SpellsText d cs := by
  have htext := SpellsText.mk blanks_nil h blanks_nil
  rwa [List.append_nil] at htext

/-- The literal of a key spells it, behind any blanks. -/
theorem spellsKey_literal {w : List Char} (hw : Blanks w) (k : String) :
    SpellsKey (some k) (w ++ literal k) := by
  have h := SpellsKey.mk hw (literalBody_escaped k.toList) blanks_nil
  rw [literalValue_escaped] at h
  exact h

mutual

/-- **The compact text of a value spells it.** -/
theorem spells_compact (v : Json) (h : Legible v) : Spells (.ofJson v) v.compact := by
  match v with
  | .null => exact .null
  | .bool b => exact .bool b
  | .number n => exact h
  | .string s => exact spells_literal s
  | .array [] => exact .emptyArray blanks_nil
  | .array (v :: vs) => exact .array (spellsItems_compact (v :: vs) (List.cons_ne_nil v vs) h)
  | .object [] => exact .emptyObject blanks_nil
  | .object (m :: ms) => exact .object (spellsMembers_compact (m :: ms) (List.cons_ne_nil m ms) h)

/-- The compact texts of items with commas between them spell the items. There is one at least: an
empty array has its own form. -/
theorem spellsItems_compact (items : List Json) (hne : items ≠ []) (h : LegibleItems items) :
    SpellsItems (Document.ofJsonItems items) (compactItems true items) := by
  match items with
  | [v] =>
      have hfirst := SpellsItems.one (spells_compact v h.1).text
      simpa [compactItems, Document.ofJsonItems] using hfirst
  | v :: w :: vs =>
      have hrest := spellsItems_compact (w :: vs) (List.cons_ne_nil w vs) h.2
      have hall := SpellsItems.cons (spells_compact v h.1).text hrest
      simpa [compactItems, Document.ofJsonItems] using hall

/-- The compact texts of members with commas between them spell the members, of which there is one
at least. -/
theorem spellsMembers_compact (members : List (String × Json)) (hne : members ≠ [])
    (h : LegibleMembers members) :
    SpellsMembers (Document.ofJsonMembers members) (compactMembers true members) := by
  match members with
  | [(k, v)] =>
      have hkey := spellsKey_literal blanks_nil k
      have hfirst := SpellsMembers.one hkey (spells_compact v h.1).text
      simpa [compactMembers, Document.ofJsonMembers] using hfirst
  | (k, v) :: m :: ms =>
      have hkey := spellsKey_literal blanks_nil k
      have hrest := spellsMembers_compact (m :: ms) (List.cons_ne_nil m ms) h.2
      have hall := SpellsMembers.cons hkey (spells_compact v h.1).text hrest
      simpa [compactMembers, Document.ofJsonMembers] using hall

end

/-- The beginning of a line is blank, however deep it is. -/
theorem blanks_newLine (depth : Nat) : Blanks (newLine depth) := by
  have hspaces : ∀ n, (List.replicate n ' ').all isSpace = true := by
    intro n
    rw [List.all_eq_true]
    intro c hc
    obtain rfl := List.eq_of_mem_replicate hc
    rfl
  exact hspaces _

mutual

/-- **The indented text of a value spells it.** -/
theorem spells_indented (depth : Nat) (v : Json) (h : Legible v) :
    Spells (.ofJson v) (v.indented depth) := by
  match v with
  | .null => exact .null
  | .bool b => exact .bool b
  | .number n => exact h
  | .string s => exact spells_literal s
  | .array [] => exact .emptyArray blanks_nil
  | .array (v :: vs) =>
      have hitems := spellsItems_indented (depth + 1) (v :: vs) (List.cons_ne_nil v vs) h
        (blanks_newLine depth)
      simpa [indented, Document.ofJson] using Spells.array hitems
  | .object [] => exact .emptyObject blanks_nil
  | .object (m :: ms) =>
      have hmembers := spellsMembers_indented (depth + 1) (m :: ms) (List.cons_ne_nil m ms) h
        (blanks_newLine depth)
      simpa [indented, Document.ofJson] using Spells.object hmembers

/-- The blanks before the closing bracket belong to the text of the last item. -/
theorem spellsItems_indented (depth : Nat) (items : List Json) (hne : items ≠ [])
    (h : LegibleItems items) {u : List Char} (hu : Blanks u) :
    SpellsItems (Document.ofJsonItems items) (indentedItems depth true items ++ u) := by
  match items with
  | [v] =>
      have hfirst := SpellsText.mk (blanks_newLine depth) (spells_indented depth v h.1) hu
      simpa [indentedItems, Document.ofJsonItems] using SpellsItems.one hfirst
  | v :: w :: vs =>
      have hfirst := SpellsText.mk (blanks_newLine depth) (spells_indented depth v h.1) blanks_nil
      have hrest := spellsItems_indented depth (w :: vs) (List.cons_ne_nil w vs) h.2 hu
      simpa [indentedItems, Document.ofJsonItems] using SpellsItems.cons hfirst hrest

/-- The blanks before the closing brace belong to the text of the value of the last member. -/
theorem spellsMembers_indented (depth : Nat) (members : List (String × Json))
    (hne : members ≠ []) (h : LegibleMembers members) {u : List Char} (hu : Blanks u) :
    SpellsMembers (Document.ofJsonMembers members) (indentedMembers depth true members ++ u) := by
  have hspace : Blanks [' '] := rfl
  match members with
  | [(k, v)] =>
      have hkey := spellsKey_literal (blanks_newLine depth) k
      have hfirst := SpellsText.mk hspace (spells_indented depth v h.1) hu
      simpa [indentedMembers, Document.ofJsonMembers] using SpellsMembers.one hkey hfirst
  | (k, v) :: m :: ms =>
      have hkey := spellsKey_literal (blanks_newLine depth) k
      have hfirst := SpellsText.mk hspace (spells_indented depth v h.1) blanks_nil
      have hrest := spellsMembers_indented depth (m :: ms) (List.cons_ne_nil m ms) h.2 hu
      simpa [indentedMembers, Document.ofJsonMembers] using SpellsMembers.cons hkey hfirst hrest

end

/-! ### Reading back -/

mutual

/-- The document of a value is complete, and it is kept as the canonical form of the value. -/
theorem toJson?_ofJson (v : Json) : (Document.ofJson v).toJson? = some v.canonical := by
  match v with
  | .null => rfl
  | .bool b => rfl
  | .number n => rfl
  | .string s => rfl
  | .array items =>
      rw [Document.ofJson, Document.toJson?, toJsonItems?_ofJsonItems items]
      rfl
  | .object members =>
      rw [Document.ofJson, Document.toJson?, toJsonMembers?_ofJsonMembers [] members]
      rfl

/-- The documents of items are kept as the canonical forms of the items. -/
theorem toJsonItems?_ofJsonItems (items : List Json) :
    Document.toJsonItems? (Document.ofJsonItems items) = some (canonicalItems items) := by
  match items with
  | [] => rfl
  | v :: vs =>
      rw [Document.ofJsonItems, Document.toJsonItems?, toJson?_ofJson v,
        toJsonItems?_ofJsonItems vs]
      rfl

/-- The documents of members are inserted by their keys, as the canonical form has it. -/
theorem toJsonMembers?_ofJsonMembers (sorted members : List (String × Json)) :
    Document.toJsonMembers? sorted (Document.ofJsonMembers members) =
      some (canonicalMembers sorted members) := by
  match members with
  | [] => rfl
  | (k, v) :: ms =>
      rw [Document.ofJsonMembers, Document.toJsonMembers?, toJson?_ofJson v]
      exact toJsonMembers?_ofJsonMembers (insertMember k v.canonical sorted) ms

end

/-- Items are read one by one. -/
theorem canonicalItems_map {α : Type} {f g : α → Json} {items : List α}
    (h : ∀ x ∈ items, (f x).canonical = g x) : canonicalItems (items.map f) = items.map g := by
  induction items with
  | nil => rfl
  | cons x items ih =>
      rw [List.forall_mem_cons] at h
      rw [List.map_cons, List.map_cons, canonicalItems, h.1, ih h.2]

/-- The value has at most `n` brackets inside each other. -/
def FitsIn : Nat → Json → Prop
  | n + 1, .array items => ∀ v ∈ items, FitsIn n v
  | n + 1, .object members => ∀ m ∈ members, FitsIn n m.2
  | 0, .array _ => False
  | 0, .object _ => False
  | _, _ => True

open Document in
/-- No bracket is marked in a value with few brackets inside each other. -/
theorem limited_ofJson {n depth : Nat} {v : Json} (h : FitsIn n v)
    (hdepth : depth + n ≤ depthLimit) : (ofJson v).limited depth = ofJson v := by
  induction n generalizing depth v with
  | zero =>
      cases v with
      | null | bool | number | string => rfl
      | array => exact absurd h id
      | object => exact absurd h id
  | succ n ih =>
      have hlimit : depth < depthLimit := by omega
      have hinner : depth + 1 + n ≤ depthLimit := by omega
      cases v with
      | null | bool | number | string => rfl
      | array items =>
          have hitems : limitedItems (depth + 1) (ofJsonItems items) = ofJsonItems items := by
            have hall : ∀ v ∈ items, FitsIn n v := h
            clear h
            induction items with
            | nil => rfl
            | cons v vs ihs =>
                rw [ofJsonItems, limitedItems, ih (hall v (by simp)) hinner,
                  ihs fun w hw => hall w (by simp [hw])]
          rw [ofJson, limited, hitems, nested, if_pos hlimit]
      | object members =>
          have hmembers : limitedMembers (depth + 1) (ofJsonMembers members) =
              ofJsonMembers members := by
            have hall : ∀ m ∈ members, FitsIn n m.2 := h
            clear h
            induction members with
            | nil => rfl
            | cons m ms ihs =>
                rw [ofJsonMembers, limitedMembers, ih (hall m (by simp)) hinner,
                  ihs fun w hw => hall w (by simp [hw])]
          rw [ofJson, limited, hmembers, nested, if_pos hlimit]

/-- The value is **printable**: its texts spell it, and it has at most `n` brackets inside each
other. -/
structure Printable (n : Nat) (v : Json) : Prop where
  legible : Legible v
  fits : FitsIn n v

/-- A text is printable, with no brackets. -/
theorem printable_string (n : Nat) (s : String) : Printable n (.string s) :=
  ⟨trivial, by cases n <;> exact trivial⟩

/-- An array is printable with one bracket more than its items. -/
theorem printable_array {n : Nat} {items : List Json} (h : ∀ v ∈ items, Printable n v) :
    Printable (n + 1) (.array items) := by
  refine ⟨?_, fun v hv => (h v hv).fits⟩
  change LegibleItems items
  induction items with
  | nil => exact trivial
  | cons v items ih =>
      rw [List.forall_mem_cons] at h
      exact ⟨h.1.legible, ih h.2⟩

/-- An object is printable with one bracket more than its members. -/
theorem printable_object {n : Nat} {members : List (String × Json)}
    (h : ∀ m ∈ members, Printable n m.2) : Printable (n + 1) (.object members) := by
  refine ⟨?_, fun m hm => (h m hm).fits⟩
  change LegibleMembers members
  induction members with
  | nil => exact trivial
  | cons m members ih =>
      rw [List.forall_mem_cons] at h
      exact ⟨h.1.legible, ih h.2⟩

/-- A record is printable with one bracket more than those of its fields that are there. -/
theorem printable_ofFields {n : Nat} {fields : List (String × Option Json)}
    (h : ∀ x ∈ fields, ∀ v, x.2 = some v → Printable n v) :
    Printable (n + 1) (.ofFields fields) := by
  refine printable_object fun m hm => ?_
  obtain ⟨x, hx, hm⟩ := List.mem_filterMap.1 hm
  obtain ⟨v, hv, rfl⟩ := Option.map_eq_some_iff.1 hm
  exact h x hx v hv

/-- The array of the values of items is printable if the value of any item is. -/
theorem printable_map {α : Type} {f : α → Json} {n : Nat} (items : List α)
    (h : ∀ x, Printable n (f x)) : Printable (n + 1) (.array (items.map f)) := by
  refine printable_array fun v hv => ?_
  obtain ⟨x, -, rfl⟩ := List.mem_map.1 hv
  exact h x

/-- **A text that spells a value is read as the value**, its members in the order of their keys, if
the value has not too many brackets inside each other. -/
theorem parse?_of_spells {v : Json} {cs : List Char} (h : Spells (.ofJson v) cs)
    (hfits : FitsIn Document.depthLimit v) : parse? (String.ofList cs) = some v.canonical := by
  have hdepth : 0 + Document.depthLimit ≤ Document.depthLimit := by omega
  rw [parse?_of_spellsText h.text, limited_ofJson hfits hdepth, toJson?_ofJson]

end Scenarist.Json
