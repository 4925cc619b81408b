import Scenarist.Proofs.Json.Canonical
import Scenarist.Proofs.Toml.Table

/-!
# What Is Read of a Written TOML Value

A TOML value that was read is taken apart by typed readers, which see it as a document. This module
says what they find in a value that was written and read back. Where any value is taken they find
the canonical form of the value (`asJson_toDocument`), and that form is kept: the members of a table
come back in another order, which does not matter where no key is there twice
(`Json.insertAll_perm`), and numbers that are undefined have no form.

A JSON value as it is held while the program runs (`Json.Held`) is its own canonical form, so it
comes back as it was (`canonical_readBack`, `held_of_ofJson?`).

## Main results

* `canonical_readBack`: **reading a value back keeps its canonical form**.
* `held_of_ofJson?`: the TOML value of a held value is held, and is the same value.
* `Json.storable_object`, `Json.stored_object`: what an object is stored as.
-/

namespace Scenarist

namespace Toml

/-! ### Values as JSON -/

mutual

/-- A value as a JSON value. -/
def toJson : Toml → Json
  | .string s => .string s
  | .integer n => .number (wholeNumber n)
  | .float x => .number (.float x)
  | .bool b => .bool b
  | .date text => .object [(dateKey, .string text)]
  | .array items => .array (itemsToJson items)
  | .table members => .object (membersToJson members)

/-- The items of an array as JSON values. -/
def itemsToJson : List Toml → List Json
  | [] => []
  | v :: vs => toJson v :: itemsToJson vs

/-- The members of a table as those of an object, in the same order. -/
def membersToJson : List (String × Toml) → List (String × Json)
  | [] => []
  | (k, v) :: vs => (k, toJson v) :: membersToJson vs

end

mutual

/-- The document of a value is that of its JSON value. -/
theorem toDocument_eq (v : Toml) : v.toDocument = .ofJson v.toJson := by
  cases v with
  | string | integer | float | bool | date => rfl
  | array items => rw [toDocument, itemsToDocument_eq items]; rfl
  | table members => rw [toDocument, membersToDocument_eq members]; rfl

/-- The documents of items are those of their JSON values. -/
theorem itemsToDocument_eq (items : List Toml) :
    itemsToDocument items = Json.Document.ofJsonItems (itemsToJson items) := by
  cases items with
  | nil => rfl
  | cons v items => rw [itemsToDocument, toDocument_eq v, itemsToDocument_eq items]; rfl

/-- The documents of members are those of their JSON values, under the same keys. -/
theorem membersToDocument_eq (members : List (String × Toml)) :
    membersToDocument members = Json.Document.ofJsonMembers (membersToJson members) := by
  cases members with
  | nil => rfl
  | cons m members =>
      rw [membersToDocument, toDocument_eq m.2, membersToDocument_eq members]; rfl

end

/-- What is read of a value where any value is taken. -/
theorem asJson_toDocument (v : Toml) : v.toDocument.asJson = .ok v.toJson.canonical := by
  rw [Json.Document.asJson, toDocument_eq, Json.toJson?_ofJson]

/-- The members of a table become members one by one. -/
theorem membersToJson_eq (members : List (String × Toml)) :
    membersToJson members = members.map fun m => (m.1, m.2.toJson) := by
  induction members with
  | nil => rfl
  | cons m members ih => rw [membersToJson, ih, List.map_cons]

mutual

/-- Reading a value back keeps its canonical form: numbers that are undefined have none. -/
theorem canonical_reread (v : Toml) : (reread v).toJson.canonical = v.toJson.canonical := by
  cases v with
  | string | integer | bool | date => rfl
  | float x =>
      change (Json.number (.float (rereadFloat x))).canonical = (Json.number (.float x)).canonical
      rw [Json.canonical, Json.canonical, isFinite_rereadFloat]
      split
      · next hx => rw [rereadFloat_of_isFinite hx]
      · rfl
  | array items =>
      rw [reread, toJson, Json.canonical, canonical_rereadItems items]
      rfl
  | table members =>
      rw [reread, toJson, Json.canonical, canonical_rereadMembers members []]
      rfl

/-- Items keep their canonical forms when they are read back on a line. -/
theorem canonical_rereadItems (items : List Toml) :
    Json.canonicalItems (itemsToJson (rereadItems items)) =
      Json.canonicalItems (itemsToJson items) := by
  cases items with
  | nil => rfl
  | cons v items =>
      rw [rereadItems, itemsToJson, Json.canonicalItems, canonical_reread v,
        canonical_rereadItems items]
      rfl

/-- Members keep their canonical forms when they are read back on a line, whatever members are
already sorted. -/
theorem canonical_rereadMembers (members : List (String × Toml)) (sorted : List (String × Json)) :
    Json.canonicalMembers sorted (membersToJson (rereadMembers members)) =
      Json.canonicalMembers sorted (membersToJson members) := by
  cases members with
  | nil => rfl
  | cons m members =>
      rw [rereadMembers, membersToJson, Json.canonicalMembers, canonical_reread m.2,
        canonical_rereadMembers members]
      rfl

end

mutual

/-- **Reading a value back under headers keeps its canonical form**: the order of the members of its
tables does not matter. -/
theorem canonical_arranged (v : Toml) (h : Held v) :
    (arranged v).toJson.canonical = v.toJson.canonical := by
  cases v with
  | string | integer | float | bool | date => rfl
  | array items =>
      rw [arranged, toJson, Json.canonical, canonical_arrangedItems items h]
      rfl
  | table members =>
      have hperm := (perm_members members).map fun m => (m.1, m.2.toJson.canonical)
      have hkeys : (((ownMembers members ++ headedMembers members).map
          fun m => (m.1, m.2.toJson.canonical)).map Prod.fst).Nodup := by
        have hnodup := nodup_members h.1
        rw [← List.map_append] at hnodup
        rwa [List.map_map]
      rw [arranged, toJson, toJson, Json.canonical, Json.canonical, Json.canonicalMembers_eq,
        Json.canonicalMembers_eq, membersToJson_eq, membersToJson_eq, List.map_map, List.map_map]
      refine congrArg Json.object ((Json.insertAll_perm hperm hkeys []).trans ?_)
      rw [List.map_map]
      exact congrArg _ (canonical_readBackMembers members h.2)

/-- Items keep their canonical forms when they are read back under headers. -/
theorem canonical_arrangedItems (items : List Toml) (h : ItemsHeld items) :
    Json.canonicalItems (itemsToJson (arrangedItems items)) =
      Json.canonicalItems (itemsToJson items) := by
  cases items with
  | nil => rfl
  | cons v items =>
      rw [arrangedItems, itemsToJson, Json.canonicalItems, canonical_arranged v h.1,
        canonical_arrangedItems items h.2]
      rfl

/-- Each member keeps the canonical form of its value, on its line or under its header. -/
theorem canonical_readBackMembers (members : List (String × Toml)) (h : MembersHeld members) :
    (members.map fun m => (m.1, (readBack m.2).toJson.canonical)) =
      members.map fun m => (m.1, m.2.toJson.canonical) := by
  cases members with
  | nil => rfl
  | cons m members =>
      have hvalue : (readBack m.2).toJson.canonical = m.2.toJson.canonical := by
        rw [readBack]
        split
        · exact canonical_arranged m.2 h.1
        · exact canonical_reread m.2
      rw [List.map_cons, List.map_cons, hvalue, canonical_readBackMembers members h.2]

end

/-- **Reading a value back keeps its canonical form**, wherever it was written. -/
theorem canonical_readBack {v : Toml} (h : Held v) :
    (readBack v).toJson.canonical = v.toJson.canonical := by
  rw [readBack]
  split
  · exact canonical_arranged v h
  · exact canonical_reread v

/-! ### Values of JSON -/

mutual

/-- **The TOML value of a held value is held, and is the same value.** -/
theorem held_of_ofJson? (j : Json) (h : j.Held) {v : Toml} (hv : ofJson? j = some v) :
    Held v ∧ v.toJson = j := by
  cases j with
  | null => cases hv
  | bool b =>
      cases hv
      exact ⟨trivial, rfl⟩
  | string s =>
      cases hv
      exact ⟨trivial, rfl⟩
  | number n =>
      cases n with
      | natural n =>
          rw [ofJson?] at hv
          split at hv
          · next hlt =>
            cases hv
            have hpow : Nat.pow 2 63 = 2 ^ 63 := rfl
            refine ⟨⟨by omega, by omega⟩, ?_⟩
            rw [toJson, wholeNumber, if_neg (by omega), Int.natAbs_natCast]
          · cases hv
      | negative n =>
          cases hv
          have hrange : 0 < n ∧ n ≤ 2 ^ 63 := h
          refine ⟨⟨by omega, by omega⟩, ?_⟩
          rw [toJson, wholeNumber, if_pos (by omega), Int.natAbs_neg, Int.natAbs_natCast]
      | float x =>
          cases hv
          exact ⟨trivial, rfl⟩
      | single x => exact absurd h id
  | array items =>
      rw [ofJson?, Option.map_eq_some_iff] at hv
      obtain ⟨vs, hvs, rfl⟩ := hv
      obtain ⟨hheld, hsame⟩ := itemsHeld_of_itemsOfJson? items h hvs
      exact ⟨hheld, by rw [toJson, hsame]⟩
  | object members =>
      rw [ofJson?, Option.map_eq_some_iff] at hv
      obtain ⟨vs, hvs, rfl⟩ := hv
      obtain ⟨hheld, hsame⟩ := membersHeld_of_membersOfJson? members h.2 hvs
      refine ⟨⟨?_, hheld⟩, by rw [toJson, hsame]⟩
      have hkeys : vs.map Prod.fst = members.map Prod.fst := by
        rw [← hsame, membersToJson_eq, List.map_map]
        rfl
      rw [hkeys]
      exact h.1.imp fun hlt => hlt.ne

/-- The TOML values of held items are held, and are the same values. -/
theorem itemsHeld_of_itemsOfJson? (items : List Json) (h : Json.ItemsHeld items) {vs : List Toml}
    (hvs : itemsOfJson? items = some vs) : ItemsHeld vs ∧ itemsToJson vs = items := by
  cases items with
  | nil =>
      cases hvs
      exact ⟨trivial, rfl⟩
  | cons j items =>
      simp only [itemsOfJson?, Option.bind_eq_bind, Option.bind_eq_some_iff, Option.pure_def,
        Option.some.injEq] at hvs
      obtain ⟨w, hw, ws, hws, rfl⟩ := hvs
      obtain ⟨hheld, hsame⟩ := held_of_ofJson? j h.1 hw
      obtain ⟨hheld', hsame'⟩ := itemsHeld_of_itemsOfJson? items h.2 hws
      exact ⟨⟨hheld, hheld'⟩, by rw [itemsToJson, hsame, hsame']⟩

/-- The TOML values of held members are held, and are the same values under the same keys. -/
theorem membersHeld_of_membersOfJson? (members : List (String × Json))
    (h : Json.MembersHeld members) {vs : List (String × Toml)}
    (hvs : membersOfJson? members = some vs) : MembersHeld vs ∧ membersToJson vs = members := by
  cases members with
  | nil =>
      cases hvs
      exact ⟨trivial, rfl⟩
  | cons m members =>
      simp only [membersOfJson?, Option.bind_eq_bind, Option.bind_eq_some_iff, Option.pure_def,
        Option.some.injEq] at hvs
      obtain ⟨w, hw, ws, hws, rfl⟩ := hvs
      obtain ⟨hheld, hsame⟩ := held_of_ofJson? m.2 h.1 hw
      obtain ⟨hheld', hsame'⟩ := membersHeld_of_membersOfJson? members h.2 hws
      exact ⟨⟨hheld, hheld'⟩, by rw [membersToJson, hsame, hsame']⟩

end

/-! ### What is read of a value -/

/-- What a typed reader sees of a table are its members in order, and nothing after them. -/
theorem toDocument_table (members : List (String × Toml)) :
    (table members).toDocument =
      .object (members.map fun m => (some m.1, m.2.toDocument)) true := by
  have hmembers : membersToDocument members =
      members.map fun m => (some m.1, m.2.toDocument) := by
    induction members with
    | nil => rfl
    | cons m members ih => rw [membersToDocument, ih, List.map_cons]
  rw [toDocument, hmembers]

/-- A whole number is read as itself, whatever it is read for. -/
theorem asNat_integer (n : Nat) (kind : String) :
    (integer n).toDocument.asNat kind = .ok n := by
  have hwhole : wholeNumber n = .natural n := by
    rw [wholeNumber, if_neg (by omega), Int.natAbs_natCast]
  rw [toDocument, hwhole]
  rfl

/-- A text is read as itself. -/
theorem asText_string (s : String) : (string s).toDocument.asText = .ok s := rfl

/-- A truth value is read as itself. -/
theorem asBool_bool (b : Bool) : (bool b).toDocument.asBool = .ok b := rfl

/-- A text is read as itself where it might have been left out. -/
theorem asOption_string (s : String) :
    (string s).toDocument.asOption (·.asText) = .ok (some s) := rfl

/-- A number is read as the nearest single one where it might have been left out. -/
theorem asOption_float (x : Double) :
    (float x).toDocument.asOption (·.asSingle) = .ok (some x.convert) := rfl

/-! ### Lists of texts -/

/-- A list of texts. -/
def ofTexts (texts : List String) : Toml := .array (texts.map .string)

/-- A list of texts is written on one line, never under headers. -/
theorem hasHeader_ofTexts (texts : List String) : hasHeader (ofTexts texts) = false := by
  cases texts <;> rfl

/-- A list of texts can be held: there is no number in it, and no table. -/
theorem held_ofTexts (texts : List String) : Held (ofTexts texts) := by
  refine itemsHeld_iff.2 fun v hv => ?_
  obtain ⟨s, -, rfl⟩ := List.mem_map.1 hv
  trivial

/-- A list of texts takes one bracket, so it is never too deep. -/
theorem fitsIn_ofTexts (texts : List String) : FitsIn (depthLimit - 1) (ofTexts texts) := by
  intro v hv
  obtain ⟨s, -, rfl⟩ := List.mem_map.1 hv
  trivial

/-- A list of texts comes back as it was. -/
theorem reread_ofTexts (texts : List String) : reread (ofTexts texts) = ofTexts texts := by
  have hitems : rereadItems (texts.map .string) = texts.map .string := by
    induction texts with
    | nil => rfl
    | cons s texts ih =>
        rw [List.map_cons, rereadItems, ih]
        rfl
  rw [ofTexts, reread, hitems]

/-- A list of texts is read as the texts. -/
theorem asList_ofTexts (texts : List String) :
    (ofTexts texts).toDocument.asList (·.asText) = .ok texts := by
  have hjson : (ofTexts texts).toJson = .array (texts.map .string) := by
    have hitems : itemsToJson (texts.map .string) = texts.map .string := by
      induction texts with
      | nil => rfl
      | cons s texts ih =>
          rw [List.map_cons, itemsToJson, ih]
          rfl
    rw [ofTexts, toJson, hitems]
  rw [toDocument_eq, hjson]
  exact Json.asList_array fun _ _ => rfl

end Toml

namespace Json

/-! ### Values that can be stored -/

/-- The value has a TOML value to be **stored** as. -/
def Storable (v : Json) : Prop := (Toml.ofJson? v).isSome = true

/-- The TOML value of a value; an empty table if it has none. -/
def stored (v : Json) : Toml := (Toml.ofJson? v).getD (.table [])

/-- What can be stored is stored as its TOML value. -/
theorem Storable.ofJson? {v : Json} (h : v.Storable) : Toml.ofJson? v = some v.stored := by
  obtain ⟨x, hx⟩ := Option.isSome_iff_exists.1 h
  rw [stored, hx]
  rfl

/-- A text can be stored. -/
@[simp]
theorem storable_string (s : String) : (Json.string s).Storable := rfl

/-- A truth value can be stored. -/
@[simp]
theorem storable_bool (b : Bool) : (Json.bool b).Storable := rfl

/-- A single number can be stored, even one that is not finite. -/
@[simp]
theorem storable_single (x : Single) : (Json.number (.single x)).Storable := rfl

/-- A natural number can be stored if it is in the range of the integers of TOML. -/
@[simp]
theorem storable_nat {n : Nat} : (Json.nat n).Storable ↔ n < 2 ^ 63 := by
  rw [Storable, nat, Toml.ofJson?]
  split
  · next h => exact iff_of_true rfl h
  · next h => exact iff_of_false (by simp) h

/-- A text is stored as itself. -/
@[simp]
theorem stored_string (s : String) : (Json.string s).stored = .string s := rfl

/-- A truth value is stored as itself. -/
@[simp]
theorem stored_bool (b : Bool) : (Json.bool b).stored = .bool b := rfl

/-- A single number is stored as the same number in double precision. -/
@[simp]
theorem stored_single (x : Single) : (Json.number (.single x)).stored = .float x.convert := rfl

/-- A natural number in the range is stored as that integer. -/
theorem stored_nat {n : Nat} (h : n < 2 ^ 63) : (Json.nat n).stored = .integer n := by
  have hsome : Toml.ofJson? (Json.nat n) = some (.integer n) := if_pos h
  rw [stored, hsome]
  rfl

/-- Members that can be stored one by one can be stored together. -/
theorem membersOfJson?_eq {ms : List (String × Json)} (h : ∀ m ∈ ms, m.2.Storable) :
    Toml.membersOfJson? ms = some (ms.map fun m => (m.1, m.2.stored)) := by
  induction ms with
  | nil => rfl
  | cons m ms ih =>
      rw [List.forall_mem_cons] at h
      rw [Toml.membersOfJson?, h.1.ofJson?, ih h.2]
      rfl

/-- An object can be stored if all its members can. -/
@[simp]
theorem storable_object {ms : List (String × Json)} :
    (Json.object ms).Storable ↔ ∀ m ∈ ms, m.2.Storable := by
  rw [Storable, Toml.ofJson?, Option.isSome_map]
  refine ⟨fun h => ?_, fun h => by rw [membersOfJson?_eq h]; rfl⟩
  induction ms with
  | nil => simp
  | cons m ms ih =>
      obtain ⟨k, v⟩ := m
      obtain ⟨vs, hvs⟩ := Option.isSome_iff_exists.1 h
      simp only [Toml.membersOfJson?, Option.bind_eq_bind, Option.bind_eq_some_iff] at hvs
      obtain ⟨w, hw, ws, hws, -⟩ := hvs
      have hv : v.Storable := by rw [Storable, hw]; rfl
      exact List.forall_mem_cons.2 ⟨hv, ih (by rw [hws]; rfl)⟩

/-- **An object is stored as the table of its members**, in their order. -/
theorem stored_object {ms : List (String × Json)} (h : (Json.object ms).Storable) :
    (Json.object ms).stored = .table (ms.map fun m => (m.1, m.2.stored)) := by
  rw [stored, Toml.ofJson?, membersOfJson?_eq (storable_object.1 h)]
  rfl

/-- The TOML value of an array of texts is the same array. -/
theorem ofJson?_texts (texts : List String) :
    Toml.ofJson? (.array (texts.map .string)) = some (.array (texts.map .string)) := by
  have hitems : Toml.itemsOfJson? (texts.map .string) = some (texts.map .string) := by
    induction texts with
    | nil => rfl
    | cons s texts ih =>
        rw [List.map_cons, Toml.itemsOfJson?, ih]
        rfl
  rw [Toml.ofJson?, hitems]
  rfl

/-- An array of texts can be stored. -/
@[simp]
theorem storable_texts (texts : List String) : (Json.array (texts.map .string)).Storable := by
  rw [Storable, ofJson?_texts]
  rfl

/-- An array of texts is stored as the list of them. -/
theorem stored_texts (texts : List String) :
    (Json.array (texts.map .string)).stored = .ofTexts texts := by
  rw [stored, ofJson?_texts]
  rfl

end Json

end Scenarist
