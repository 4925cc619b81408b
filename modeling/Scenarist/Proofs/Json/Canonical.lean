import Mathlib.Data.String.Basic
import Scenarist.Proofs.Decimal.Rounding
import Scenarist.Proofs.Json.Record

/-!
# Canonical Values

The canonical form of a value has the members of its objects in the order of their keys. What order
they had before does not matter where no key is there twice (`insertAll_perm`), and members that are
in order already stay where they are (`canonicalMembers_of_ascending`).

So values that are in their canonical form keep it. Two kinds of them are known here: what a reader
makes of any document (`canonical_of_toJson?`), and the values that are held while the program runs
(`canonical_of_held`), which have no numbers of single precision and none that is not finite.

## Main results

* `insertAll_perm`: **the order of members with different keys does not matter**.
* `canonical_of_toJson?`: **what is read is in its canonical form**.
* `canonical_of_held`: a held value is in its canonical form.
-/

namespace Scenarist

namespace Json

/-! ### The order of members -/

/-- Members with different keys can be put into their places in any order. -/
theorem insertMember_comm {k l : String} (h : k ≠ l) (v w : Json) (ms : List (String × Json)) :
    insertMember k v (insertMember l w ms) = insertMember l w (insertMember k v ms) := by
  induction ms with
  | nil => grind [insertMember]
  | cons m ms ih =>
      obtain ⟨a, x⟩ := m
      grind [insertMember]

/-- Members put into their places one after the other. -/
def insertAll (sorted : List (String × Json)) (ms : List (String × Json)) : List (String × Json) :=
  ms.foldl (fun sorted m => insertMember m.1 m.2 sorted) sorted

/-- Members are inserted by their keys with the canonical forms of their values. -/
theorem canonicalMembers_eq (sorted ms : List (String × Json)) :
    canonicalMembers sorted ms = insertAll sorted (ms.map fun m => (m.1, m.2.canonical)) := by
  induction ms generalizing sorted with
  | nil => rfl
  | cons m ms ih => exact ih _

/-- **The order of members with different keys does not matter.** -/
theorem insertAll_perm {ms ns : List (String × Json)} (hperm : ms.Perm ns)
    (hkeys : (ms.map Prod.fst).Nodup) (sorted : List (String × Json)) :
    insertAll sorted ms = insertAll sorted ns := by
  refine hperm.foldl_eq' (fun m hm n hn sorted => ?_) sorted
  by_cases hkey : m.1 = n.1
  · rw [List.inj_on_of_nodup_map hkeys hm hn hkey]
  · exact insertMember_comm (Ne.symm hkey) _ _ _

/-- Objects with the same keys and members of the same canonical form have the same one. -/
theorem canonical_object_congr {ms ns : List (String × Json)}
    (h : ms.map (fun m => (m.1, m.2.canonical)) = ns.map fun m => (m.1, m.2.canonical)) :
    (object ms).canonical = (object ns).canonical := by
  rw [canonical, canonical, canonicalMembers_eq, canonicalMembers_eq, h]

/-- A member whose key comes after all others goes to the end. -/
theorem insertMember_last {k : String} {ms : List (String × Json)}
    (h : ∀ m ∈ ms, m.1 < k) (v : Json) : insertMember k v ms = ms ++ [(k, v)] := by
  induction ms with
  | nil => rfl
  | cons m ms ih =>
      rw [List.forall_mem_cons] at h
      rw [insertMember, if_neg (not_lt.2 h.1.le), if_neg h.1.ne', ih h.2, List.cons_append]

/-- A member that is put into its place is there, with those that were there before. -/
theorem mem_insertMember {k : String} {v : Json} {ms : List (String × Json)} {m : String × Json}
    (h : m ∈ insertMember k v ms) : m = (k, v) ∨ m ∈ ms := by
  induction ms with
  | nil => exact .inl (List.mem_singleton.1 h)
  | cons n ms ih =>
      rw [insertMember] at h
      split at h
      · exact List.mem_cons.1 h
      · split at h
        · exact (List.mem_cons.1 h).imp id (List.mem_cons_of_mem n)
        · rcases List.mem_cons.1 h with rfl | hrest
          · exact .inr List.mem_cons_self
          · exact (ih hrest).imp id (List.mem_cons_of_mem n)

/-- The members are in the order of their keys. -/
def Ascending (ms : List (String × Json)) : Prop := (ms.map Prod.fst).Pairwise (· < ·)

/-- Members ascend if the first key is less than all others, and the others ascend. -/
theorem ascending_cons_iff {m : String × Json} {ms : List (String × Json)} :
    Ascending (m :: ms) ↔ (∀ n ∈ ms, m.1 < n.1) ∧ Ascending ms := by
  rw [Ascending, List.map_cons, List.pairwise_cons, List.forall_mem_map]
  rfl

/-- **A member goes to its place**: those in order stay in order. -/
theorem ascending_insertMember {k : String} {ms : List (String × Json)} (h : Ascending ms)
    (v : Json) : Ascending (insertMember k v ms) := by
  induction ms with
  | nil => simp [insertMember, Ascending]
  | cons m ms ih =>
      obtain ⟨hfirst, hms⟩ := ascending_cons_iff.1 h
      rw [insertMember]
      split
      · next hlt =>
        refine ascending_cons_iff.2 ⟨List.forall_mem_cons.2 ⟨hlt, fun n hn => ?_⟩, h⟩
        exact hlt.trans (hfirst n hn)
      · split
        · next heq => exact ascending_cons_iff.2 ⟨fun n hn => heq ▸ hfirst n hn, hms⟩
        · next hlt hne =>
          refine ascending_cons_iff.2 ⟨fun n hn => ?_, ih hms⟩
          rcases mem_insertMember hn with rfl | hn
          · exact lt_of_le_of_ne (not_lt.1 hlt) (Ne.symm hne)
          · exact hfirst n hn

/-- Members that are in order and in their canonical form stay as they are. -/
theorem canonicalMembers_of_ascending {ms : List (String × Json)} (h : Ascending ms)
    (hvalues : ∀ m ∈ ms, m.2.canonical = m.2) : canonicalMembers [] ms = ms := by
  suffices hsorted : ∀ sorted, (∀ m ∈ sorted, ∀ n ∈ ms, m.1 < n.1) →
      canonicalMembers sorted ms = sorted ++ ms from hsorted [] (by simp)
  induction ms with
  | nil => exact fun sorted _ => (List.append_nil sorted).symm
  | cons m ms ih =>
      intro sorted hbefore
      obtain ⟨hfirst, hms⟩ := ascending_cons_iff.1 h
      rw [List.forall_mem_cons] at hvalues
      have hrest : ∀ l ∈ sorted ++ [m], ∀ n ∈ ms, l.1 < n.1 := by
        intro l hl n hn
        rw [List.mem_append, List.mem_singleton] at hl
        rcases hl with hl | rfl
        · exact hbefore l hl n (List.mem_cons_of_mem m hn)
        · exact hfirst n hn
      rw [canonicalMembers, hvalues.1,
        insertMember_last (fun l hl => hbefore l hl m List.mem_cons_self),
        ih hms hvalues.2 _ hrest, List.append_assoc]
      rfl

/-! ### Values that are read -/

/-- A number is widened once. -/
theorem canonical_canonical_number (n : Number) :
    (number n).canonical.canonical = (number n).canonical := by
  cases n with
  | natural | negative => rfl
  | float x =>
      rw [canonical]
      split
      · next hx => exact if_pos hx
      · rfl
  | single x =>
      rw [canonical]
      split
      · next hx => exact if_pos (Binary.ratio_convert hx).1
      · rfl

mutual

/-- **What is read is in its canonical form.** -/
theorem canonical_of_toJson? {d : Document} {v : Json} (h : d.toJson? = some v) :
    v.canonical = v := by
  match d with
  | .null | .bool _ =>
      cases h
      rfl
  | .number n =>
      obtain ⟨n, -, rfl⟩ := Option.map_eq_some_iff.1 h
      exact canonical_canonical_number n
  | .string s =>
      obtain ⟨s, -, rfl⟩ := Option.map_eq_some_iff.1 h
      rfl
  | .array items true =>
      obtain ⟨vs, hvs, rfl⟩ := Option.map_eq_some_iff.1 h
      rw [canonical, canonicalItems_of_toJsonItems? hvs]
  | .object members true =>
      obtain ⟨ms, hms, rfl⟩ := Option.map_eq_some_iff.1 h
      obtain ⟨hkeys, hvalues⟩ := canonical_of_toJsonMembers? hms (by simp [Ascending]) (by simp)
      rw [canonical, canonicalMembers_of_ascending hkeys hvalues]

/-- Items that are read are in their canonical forms. -/
theorem canonicalItems_of_toJsonItems? {ds : List Document} {vs : List Json}
    (h : Document.toJsonItems? ds = some vs) : canonicalItems vs = vs := by
  match ds with
  | [] =>
      cases h
      rfl
  | d :: ds =>
      rw [Document.toJsonItems?] at h
      simp only [Option.bind_eq_bind, Option.bind_eq_some_iff] at h
      obtain ⟨v, hv, vs, hvs, h⟩ := h
      cases h
      rw [canonicalItems, canonical_of_toJson? hv, canonicalItems_of_toJsonItems? hvs]

/-- Members that are read ascend, and their values are in their canonical forms. -/
theorem canonical_of_toJsonMembers? {sorted ms : List (String × Json)}
    {ds : List (Option String × Document)} (h : Document.toJsonMembers? sorted ds = some ms)
    (hkeys : Ascending sorted) (hvalues : ∀ m ∈ sorted, m.2.canonical = m.2) :
    Ascending ms ∧ ∀ m ∈ ms, m.2.canonical = m.2 := by
  match ds with
  | [] =>
      cases h
      exact ⟨hkeys, hvalues⟩
  | (k, d) :: ds =>
      rw [Document.toJsonMembers?] at h
      simp only [Option.bind_eq_bind, Option.bind_eq_some_iff] at h
      obtain ⟨k, -, v, hv, h⟩ := h
      refine canonical_of_toJsonMembers? h (ascending_insertMember hkeys v) fun m hm => ?_
      rcases mem_insertMember hm with rfl | hm
      · exact canonical_of_toJson? hv
      · exact hvalues m hm

end

/-- So is a value that may be missing. -/
theorem canonical_of_asOption {d : Document} {v : Json}
    (h : d.asOption (·.asJson) = .ok (some v)) : v.canonical = v := by
  obtain ⟨-, hread⟩ := Document.asOption_eq_some_iff.1 h
  rw [Document.asJson] at hread
  split at hread
  · next hv =>
    cases hread
    exact canonical_of_toJson? hv
  · cases hread

/-! ### Values as they are held -/

mutual

/-- A value as it is **held** while the program runs: whole numbers fit 64 bits, other numbers are
finite and of double precision, and the members of an object are in the order of their keys. -/
def Held : Json → Prop
  | .number (.natural n) => n < 2 ^ 64
  | .number (.negative n) => 0 < n ∧ n ≤ 2 ^ 63
  | .number (.float x) => x.isFinite = true
  | .number (.single _) => False
  | .array items => ItemsHeld items
  | .object members => (members.map Prod.fst).Pairwise (· < ·) ∧ MembersHeld members
  | _ => True

/-- The items of an array are held. -/
def ItemsHeld : List Json → Prop
  | [] => True
  | v :: vs => Held v ∧ ItemsHeld vs

/-- The values of members are held. -/
def MembersHeld : List (String × Json) → Prop
  | [] => True
  | (_, v) :: ms => Held v ∧ MembersHeld ms

end

mutual

/-- A held value is in its canonical form. -/
theorem canonical_of_held (v : Json) (h : Held v) : v.canonical = v := by
  cases v with
  | null | bool | string => rfl
  | number n =>
      cases n with
      | natural | negative => rfl
      | float x => exact if_pos h
      | single x => exact absurd h id
  | array items => rw [canonical, canonicalItems_of_held items h]
  | object members =>
      rw [canonical, canonicalMembers_of_ascending h.1 (canonical_of_membersHeld members h.2)]

/-- Held items are in their canonical forms. -/
theorem canonicalItems_of_held (items : List Json) (h : ItemsHeld items) :
    canonicalItems items = items := by
  cases items with
  | nil => rfl
  | cons v items => rw [canonicalItems, canonical_of_held v h.1, canonicalItems_of_held items h.2]

/-- The values of held members are in their canonical forms. -/
theorem canonical_of_membersHeld (members : List (String × Json)) (h : MembersHeld members) :
    ∀ m ∈ members, m.2.canonical = m.2 := by
  cases members with
  | nil => simp
  | cons m members =>
      exact List.forall_mem_cons.2
        ⟨canonical_of_held m.2 h.1, canonical_of_membersHeld members h.2⟩

end

end Json

end Scenarist
