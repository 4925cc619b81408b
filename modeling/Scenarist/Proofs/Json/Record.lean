import Mathlib.Data.Set.Pairwise.List
import Scenarist.Proofs.Json.Document
import Scenarist.Json.Record

/-!
# Which Objects Are Records

An object is read as a record member by member, and the first member that does not fit ends the
reading. This module says of all members at once when they are read: each of them is admitted, and
no field is read twice, whatever its names (`readMembers_isOk_iff`). What is not a field of the
record is only passed over, and so every well-formed value will do there.

What one member brings about is then a property of the record that is read, as no other field takes
it back (`readMembers_brings`). What every field keeps is a property of each record that is read at
all, from an object or from an array (`read_keeps`).

## Main results

* `RecordShape.readMembers_cons_eq_ok_iff`: inversion of one step.
* `RecordShape.readMembers_isOk_iff`: **when the members of an object are read**.
* `RecordShape.readMembers_brings`: a field that is read stays as it is.
* `RecordShape.read_keeps`: what every field keeps holds of the record.
* `RecordShape.read_array_eq_ok_iff`: when an array is read as a record.
-/

namespace Scenarist.Json

/-! ### Readings that succeed -/

/-- One reading after another succeeds if both do. -/
theorem bind_eq_ok_iff {α β : Type} {x : Reading α} {f : α → Reading β} {b : β} :
    x >>= f = .ok b ↔ ∃ a, x = .ok a ∧ f a = .ok b := by
  cases x <;> simp [bind, Except.bind]

/-- A reading succeeds with another result exactly if it succeeds. -/
theorem map_eq_ok_iff {α β : Type} {x : Reading α} {f : α → β} {b : β} :
    x.map f = .ok b ↔ ∃ a, x = .ok a ∧ f a = b := by
  cases x <;> simp [Except.map]

/-- A text is read exactly if its document is, and nothing follows. -/
theorem readText_eq_ok_iff {α : Type} {read : Document → Reading α} {s : String} {a : α} :
    readText read s = .ok a ↔
      read (Document.ofText s.toList).1 = .ok a ∧ (Document.ofText s.toList).2 = true := by
  rw [readText]
  rcases Document.ofText s.toList with ⟨d, whole⟩
  cases hread : read d <;> cases whole <;> simp [hread]

/-! ### Documents of texts -/

mutual

/-- What a text spells is well formed. -/
theorem Spells.isWellFormed {d : Document} {cs : List Char} (h : Spells d cs) :
    d.isWellFormed = true := by
  match d, cs, h with
  | _, _, .null => rfl
  | _, _, .bool _ => rfl
  | _, _, .number _ => rfl
  | _, _, .string _ => rfl
  | _, _, .emptyArray _ => rfl
  | _, _, .array hitems => exact hitems.areWellFormed
  | _, _, .emptyObject _ => rfl
  | _, _, .object hmembers => exact hmembers.membersWellFormed

/-- The same with blanks around the document. -/
theorem SpellsText.isWellFormed {d : Document} {cs : List Char} (h : SpellsText d cs) :
    d.isWellFormed = true := by
  match cs, h with
  | _, .mk _ hd _ => exact hd.isWellFormed

/-- Items that are spelled are well formed. -/
theorem SpellsItems.areWellFormed {ds : List Document} {cs : List Char} (h : SpellsItems ds cs) :
    Document.areWellFormed ds = true := by
  match ds, cs, h with
  | _, _, .one hd => simp [Document.areWellFormed, hd.isWellFormed]
  | _, _, .cons hd hds => simp [Document.areWellFormed, hd.isWellFormed, hds.areWellFormed]

/-- Members that are spelled are well formed. -/
theorem SpellsMembers.membersWellFormed {ms : List (Option String × Document)} {cs : List Char}
    (h : SpellsMembers ms cs) : Document.membersWellFormed ms = true := by
  match ms, cs, h with
  | _, _, .one _ hd => simp [Document.membersWellFormed, hd.isWellFormed]
  | _, _, .cons _ hd hms =>
      simp [Document.membersWellFormed, hd.isWellFormed, hms.membersWellFormed]

end

namespace Document

/-- A mark for too many brackets does not matter to well-formedness. -/
theorem isWellFormed_nested (depth : Nat) (d : Document) :
    (nested depth d).isWellFormed = d.isWellFormed := by
  rw [nested]
  split
  · rfl
  · rw [isWellFormed]

mutual

/-- A bracket that is too deep is well formed all the same. -/
theorem isWellFormed_limited (depth : Nat) (d : Document) :
    (d.limited depth).isWellFormed = d.isWellFormed := by
  match d with
  | .broken | .null | .bool _ | .number _ | .string _ | .deep _ => rw [limited] <;> simp
  | .array items closed =>
      rw [limited, isWellFormed_nested, isWellFormed, isWellFormed,
        areWellFormed_limitedItems (depth + 1) items]
  | .object members closed =>
      rw [limited, isWellFormed_nested, isWellFormed, isWellFormed,
        membersWellFormed_limitedMembers (depth + 1) members]

/-- The marks in items do not matter to their well-formedness. -/
theorem areWellFormed_limitedItems (depth : Nat) (ds : List Document) :
    areWellFormed (limitedItems depth ds) = areWellFormed ds := by
  match ds with
  | [] => rfl
  | d :: ds =>
      rw [limitedItems, areWellFormed, areWellFormed, isWellFormed_limited depth d,
        areWellFormed_limitedItems depth ds]

/-- The marks in members do not matter to their well-formedness. -/
theorem membersWellFormed_limitedMembers (depth : Nat) (ms : List (Option String × Document)) :
    membersWellFormed (limitedMembers depth ms) = membersWellFormed ms := by
  match ms with
  | [] => rfl
  | (_, d) :: ms =>
      rw [limitedMembers, membersWellFormed, membersWellFormed, isWellFormed_limited depth d,
        membersWellFormed_limitedMembers depth ms]

end

/-- Brackets are marked in each member by itself. -/
theorem limitedMembers_eq_map (depth : Nat) (ms : List (Option String × Document)) :
    limitedMembers depth ms = ms.map fun m => (m.1, m.2.limited depth) := by
  induction ms with
  | nil => rfl
  | cons m ms ih => rw [limitedMembers, ih, List.map_cons]

/-- Members are well formed if each of their values is. -/
theorem membersWellFormed_iff {ms : List (Option String × Document)} :
    membersWellFormed ms = true ↔ ∀ m ∈ ms, m.2.isWellFormed = true := by
  induction ms with
  | nil => simp [membersWellFormed]
  | cons m ms ih => rw [membersWellFormed, Bool.and_eq_true, ih, List.forall_mem_cons]

/-- The keys of members. -/
def keys (members : List (Option String × Document)) : List String := members.filterMap Prod.fst

/-- Marks leave the keys alone. -/
@[simp] theorem keys_limitedMembers (depth : Nat) (ms : List (Option String × Document)) :
    keys (limitedMembers depth ms) = keys ms := by
  simp [keys, limitedMembers_eq_map, List.filterMap_map]

/-- No mark makes a value a flag, a text or nothing. -/
theorem limited_eq_iff {depth : Nat} {d s : Document}
    (hs : s = .null ∨ (∃ b, s = .bool b) ∨ ∃ v, s = .string v) : d.limited depth = s ↔ d = s := by
  have hnested (inner : Document) (hinner : inner ≠ s) : nested depth inner ≠ s := by
    rw [nested]
    split
    · exact hinner
    · rcases hs with rfl | ⟨b, rfl⟩ | ⟨v, rfl⟩ <;> simp
  have hbracket : (∀ items closed, Document.array items closed ≠ s) ∧
      ∀ members closed, Document.object members closed ≠ s := by
    rcases hs with rfl | ⟨b, rfl⟩ | ⟨v, rfl⟩ <;> simp
  cases d with
  | array items closed =>
      exact iff_of_false (hnested _ (hbracket.1 _ _)) (hbracket.1 items closed)
  | object members closed =>
      exact iff_of_false (hnested _ (hbracket.2 _ _)) (hbracket.2 members closed)
  | _ => rw [limited] <;> simp

/-! ### Texts and flags that may be missing -/

/-- A value is there if it is not null and is read. -/
theorem asOption_eq_some_iff {α : Type} {read : Document → Reading α} {d : Document} {a : α} :
    d.asOption read = .ok (some a) ↔ d ≠ .null ∧ read d = .ok a := by
  by_cases hnull : d = .null
  · subst hnull
    simp [asOption]
  · rw [asOption]
    · cases read d <;> simp [hnull, Except.map]
    · exact hnull

/-- Where a value may be left out, null is read too. -/
theorem asOption_isOk_iff {α : Type} {read : Document → Reading α} {d : Document} :
    (d.asOption read).isOk = true ↔ d = .null ∨ (read d).isOk = true := by
  by_cases hnull : d = .null
  · subst hnull
    exact iff_of_true rfl (.inl rfl)
  · rw [asOption]
    · cases read d <;> simp [hnull, Except.map, Except.isOk, Except.toBool]
    · exact hnull

/-- A document of an unexpected kind is not read. -/
theorem unexpected_isOk {α : Type} (expected : String) (d : Document) :
    (unexpected expected d : Reading α).isOk = false := by
  unfold unexpected
  split <;> rfl

/-- The documents that are read as a text are the complete strings. -/
theorem asText_isOk_iff {d : Document} : d.asText.isOk = true ↔ ∃ s, d = .string (some s) := by
  cases d with
  | string v => cases v <;> simp [asText, unexpected, Except.isOk, Except.toBool]
  | _ => exact iff_of_false (by simp [asText, unexpected_isOk]) (by simp)

/-- The documents that are read as a truth value are the truth values. -/
theorem asBool_isOk_iff {d : Document} : d.asBool.isOk = true ↔ ∃ b, d = .bool b := by
  cases d with
  | bool b => exact iff_of_true rfl ⟨b, rfl⟩
  | _ => exact iff_of_false (by simp [asBool, unexpected_isOk]) (by simp)

end Document

/-! ### Members -/

namespace RecordShape

variable {α : Type} {r : RecordShape α} {seen : List Nat} {acc : α}
variable {members : List (Option String × Document)}

/-- A field that is found is one of the fields. -/
theorem mem_of_find? {key : String} {n i : Nat} {f : Field α} {fs : List (Field α)}
    (h : find? key n fs = some (i, f)) : f ∈ fs := by
  induction fs generalizing n with
  | nil => cases h
  | cons g fs ih =>
      rw [find?] at h
      split at h
      · cases h
        exact List.mem_cons_self
      · exact List.mem_cons_of_mem _ (ih h)

/-- **Inversion of one step**: a member is passed over, or read into a field that has not been read
before. -/
theorem readMembers_cons_eq_ok_iff {k : Option String} {d : Document} {out : List Nat × α} :
    r.readMembers seen acc ((k, d) :: members) = .ok out ↔ ∃ key, k = some key ∧
      ((find? key 0 r.fields = none ∧ d.isWellFormed = true ∧
          r.readMembers seen acc members = .ok out) ∨
        ∃ i f acc', find? key 0 r.fields = some (i, f) ∧ i ∉ seen ∧ f.read d acc = .ok acc' ∧
          r.readMembers (i :: seen) acc' members = .ok out) := by
  cases k with
  | none => simp [readMembers]
  | some key =>
      cases hfind : find? key 0 r.fields with
      | none =>
          cases hwell : d.isWellFormed <;> simp [readMembers, hfind, hwell]
      | some place =>
          obtain ⟨i, f⟩ := place
          by_cases hseen : i ∈ seen
          · simp [readMembers, hfind, hseen, issue]
          · cases hread : f.read d acc with
            | error e => simp [readMembers, hfind, hseen, hread]
            | ok acc' => simp [readMembers, hfind, hseen, hread]

/-- Whether a value fits a field does not depend on what has been read before. -/
def Independent (r : RecordShape α) : Prop :=
  ∀ f ∈ r.fields, ∀ d acc acc', (f.read d acc).isOk = (f.read d acc').isOk

/-- The record **admits** the member: its key has a value, and its own value fits the field with
that key, or is well formed if there is none. -/
def Admits (r : RecordShape α) (m : Option String × Document) : Prop :=
  ∃ key, m.1 = some key ∧
    match find? key 0 r.fields with
    | none => m.2.isWellFormed = true
    | some (_, f) => (f.read m.2 r.blank).isOk = true

/-- The place of the field with the given key. -/
def place? (r : RecordShape α) (key : String) : Option Nat :=
  (find? key 0 r.fields).map Prod.fst

/-- The place of the field that a member is read into. -/
def index? (r : RecordShape α) (m : Option String × Document) : Option Nat := m.1.bind r.place?

/-- A member belongs to the field that is found by its key. -/
theorem index?_of_find? {key : String} {i : Nat} {f : Field α}
    (h : find? key 0 r.fields = some (i, f)) (d : Document) : r.index? (some key, d) = some i := by
  simp [index?, place?, h]

/-- A member belongs to no field if none is found by its key. -/
theorem index?_of_find?_eq_none {key : String} (h : find? key 0 r.fields = none) (d : Document) :
    r.index? (some key, d) = none := by
  simp [index?, place?, h]

/-- **When the members of an object are read**: the record admits each of them, and no two of them
are read into one field. -/
theorem readMembers_isOk_iff (hr : r.Independent) :
    (r.readMembers seen acc members).isOk = true ↔ (∀ m ∈ members, r.Admits m) ∧
      (members.filterMap r.index?).Nodup ∧ ∀ i ∈ members.filterMap r.index?, i ∉ seen := by
  induction members generalizing seen acc with
  | nil => simp [readMembers, Except.isOk, Except.toBool]
  | cons m members ih =>
      obtain ⟨_ | key, d⟩ := m
      · refine iff_of_false (by simp [readMembers, Except.isOk, Except.toBool]) ?_
        rintro ⟨hadmits, -⟩
        obtain ⟨key, hkey, -⟩ := hadmits _ List.mem_cons_self
        cases hkey
      · rw [List.forall_mem_cons]
        cases hfind : find? key 0 r.fields with
        | none =>
            have hadmits : r.Admits (some key, d) ↔ d.isWellFormed = true := by
              simp [Admits, hfind]
            rw [List.filterMap_cons_none (index?_of_find?_eq_none hfind d), hadmits, readMembers,
              hfind]
            cases hwell : d.isWellFormed with
            | false => simp [Except.isOk, Except.toBool]
            | true => simpa using ih
        | some place =>
            obtain ⟨i, f⟩ := place
            have hadmits : r.Admits (some key, d) ↔ (f.read d acc).isOk = true := by
              simp [Admits, hfind, hr f (mem_of_find? hfind) d acc r.blank]
            rw [List.filterMap_cons_some (index?_of_find? hfind d), hadmits, readMembers, hfind,
              List.nodup_cons, List.forall_mem_cons]
            by_cases hseen : i ∈ seen
            · simp [hseen, issue, Except.isOk, Except.toBool]
            · cases hread : f.read d acc with
              | error e => simp [hseen, hread, Except.isOk, Except.toBool]
              | ok acc' =>
                  have hfits : (Except.ok acc' : Reading α).isOk = true := rfl
                  have hdisjoint : (∀ j ∈ members.filterMap r.index?, j ∉ i :: seen) ↔
                      i ∉ members.filterMap r.index? ∧
                        ∀ j ∈ members.filterMap r.index?, j ∉ seen := by
                    grind
                  simp only [hread, List.contains_iff_mem, hseen, if_false, hfits, true_and]
                  rw [ih, hdisjoint]
                  tauto

/-- Members with different keys are read into different fields, unless two of the keys are names of
one field. -/
theorem nodup_index?_iff (hkeys : (Document.keys members).Nodup) :
    (members.filterMap r.index?).Nodup ↔ ∀ k ∈ Document.keys members, ∀ k' ∈ Document.keys members,
      ∀ i, r.place? k = some i → r.place? k' = some i → k = k' := by
  let apart : String → String → Prop := fun k k' =>
    ∀ i, r.place? k = some i → ∀ j, r.place? k' = some j → i ≠ j
  have hsymm : Std.Symm apart := ⟨fun _ _ h j hj i hi => (h i hi j hj).symm⟩
  have hplaces : members.filterMap r.index? = (Document.keys members).filterMap r.place? := by
    rw [Document.keys, List.filterMap_filterMap]
    rfl
  have hpairs : (members.filterMap r.index?).Nodup ↔ (Document.keys members).Pairwise apart := by
    rw [hplaces, List.Nodup, List.pairwise_filterMap]
  rw [hpairs, ← hkeys.pairwise_coe]
  constructor
  · intro h k hk k' hk' i hi hi'
    by_contra hne
    exact h hk hk' hne i hi i hi' rfl
  · rintro h k hk k' hk' hne i hi _ hj rfl
    exact hne (h k hk k' hk' i hi hj)

/-- What the fields that are not read yet keep holds of the record in the end. -/
theorem readMembers_keeps {P : α → Prop} {out : List Nat × α} (hacc : P acc)
    (hkeeps : ∀ key i f, find? key 0 r.fields = some (i, f) → i ∉ seen →
      ∀ d acc acc', P acc → f.read d acc = .ok acc' → P acc')
    (h : r.readMembers seen acc members = .ok out) : P out.2 := by
  induction members generalizing seen acc with
  | nil =>
      cases h
      exact hacc
  | cons m members ih =>
      obtain ⟨key, -, ⟨-, -, h⟩ | ⟨i, f, acc', hfind, hi, hread, h⟩⟩ :=
        readMembers_cons_eq_ok_iff.1 h
      · exact ih hacc hkeeps h
      · refine ih (hkeeps key i f hfind hi m.2 acc acc' hacc hread) ?_ h
        exact fun key j g hfind' hj => hkeeps key j g hfind' fun hseen =>
          hj (List.mem_cons_of_mem i hseen)

/-- **A field that is read stays as it is**: what it brings about holds of the record in the end,
if the other fields keep it. -/
theorem readMembers_brings {P : α → Prop} {key : String} {i : Nat} {f : Field α} {d : Document}
    {out : List Nat × α} (hmem : (some key, d) ∈ members)
    (hfind : find? key 0 r.fields = some (i, f))
    (hbrings : ∀ acc acc', f.read d acc = .ok acc' → P acc')
    (hkeeps : ∀ key' j g, find? key' 0 r.fields = some (j, g) → j ≠ i →
      ∀ d acc acc', P acc → g.read d acc = .ok acc' → P acc')
    (h : r.readMembers seen acc members = .ok out) : P out.2 := by
  induction members generalizing seen acc with
  | nil => cases hmem
  | cons m members ih =>
      obtain ⟨key', hkey', hstep⟩ := readMembers_cons_eq_ok_iff.1 h
      rcases List.mem_cons.1 hmem with rfl | hrest
      · obtain rfl := Option.some.inj hkey'
        obtain ⟨hnone, -⟩ | ⟨j, g, acc', hfound, -, hread, h⟩ := hstep
        · rw [hfind] at hnone
          cases hnone
        · rw [hfind] at hfound
          cases hfound
          -- Behind the member the field counts as read, and so only the others are read there.
          refine readMembers_keeps (hbrings acc acc' hread) ?_ h
          intro key' j g hfind' hj
          refine hkeeps key' j g hfind' ?_
          rintro rfl
          exact hj List.mem_cons_self
      · obtain ⟨-, -, h⟩ | ⟨j, g, acc', -, -, -, h⟩ := hstep
        · exact ih hrest h
        · exact ih hrest h

/-- What every field keeps holds of the items that are read in order. -/
theorem readInOrder_keeps {P : α → Prop} {n : Nat} {fs : List (Field α)} {ds : List Document}
    {closed : Bool} {out : α × List Document} (hacc : P acc)
    (hkeeps : ∀ f ∈ fs, ∀ d acc acc', P acc → f.read d acc = .ok acc' → P acc')
    (h : r.readInOrder acc n fs ds closed = .ok out) : P out.1 := by
  induction fs generalizing acc n ds with
  | nil =>
      cases h
      exact hacc
  | cons f fs ih =>
      rw [List.forall_mem_cons] at hkeeps
      cases ds with
      | nil =>
          rw [readInOrder] at h
          split at h
          · cases h
          · split at h
            · exact ih hacc hkeeps.2 h
            · cases h
      | cons d ds =>
          rw [readInOrder] at h
          cases hread : f.read d acc with
          | error e => simp [hread] at h
          | ok acc' =>
              simp only [hread] at h
              exact ih (hkeeps.1 d acc acc' hacc hread) hkeeps.2 h

/-- **What every field keeps holds of the record that is read**, if it holds of the record that is
left blank. -/
theorem read_keeps {P : α → Prop} {m : Medium} {d : Document} {a : α} (hblank : P r.blank)
    (hkeeps : ∀ f ∈ r.fields, ∀ d acc acc', P acc → f.read d acc = .ok acc' → P acc')
    (h : r.read m d = .ok a) : P a := by
  cases d with
  | object members closed =>
      rw [read] at h
      cases hread : r.readMembers [] r.blank members with
      | error e => simp [hread, bind, Except.bind] at h
      | ok out =>
          have hout : P out.2 := readMembers_keeps hblank
            (fun _ _ f hfind _ => hkeeps f (mem_of_find? hfind)) hread
          simp only [hread, bind, Except.bind] at h
          split at h
          · cases h
          · split at h
            · cases h
            · cases h
              exact hout
  | array items closed =>
      rw [read] at h
      cases hread : r.readInOrder r.blank 0 r.fields items closed with
      | error e => simp [hread, bind, Except.bind] at h
      | ok out =>
          have hout : P out.1 := readInOrder_keeps hblank hkeeps hread
          simp only [hread, bind, Except.bind] at h
          split at h
          · split at h
            · cases h
              exact hout
            · cases h
          · cases h
            exact hout
          · cases h
            exact hout
          · cases h
          · cases h
  | deep _ => cases h
  | _ =>
      simp only [read] at h
      cases (congrArg Except.isOk h).symm.trans (Document.unexpected_isOk _ _)

/-- No field is missing if none is required. -/
theorem missing?_eq_none {n : Nat} {fs : List (Field α)} (h : ∀ f ∈ fs, f.presence ≠ .required) :
    missing? seen n fs = none := by
  induction fs generalizing n with
  | nil => rfl
  | cons f fs ih =>
      rw [List.forall_mem_cons] at h
      simp [missing?, h.1, ih h.2]

/-- Of a record in which every field may be missing, nothing but the members is looked at. -/
theorem read_object (hpresence : ∀ f ∈ r.fields, f.presence ≠ .required) (m : Medium) :
    r.read m (.object members true) = (r.readMembers [] r.blank members).map Prod.snd := by
  rw [read]
  cases hread : r.readMembers [] r.blank members with
  | error e => rfl
  | ok out =>
      obtain ⟨seen, acc⟩ := out
      simp only [bind, Except.bind, missing?_eq_none hpresence]
      rfl

/-! ### Items in order -/

/-- Each item is read into the field at its place, if all fields may be missing. -/
theorem readInOrder_eq_ok_iff {n : Nat} {fs : List (Field α)} {items : List Document}
    (hpresence : ∀ f ∈ fs, f.presence = .optional) {out : α × List Document} :
    r.readInOrder acc n fs items true = .ok out ↔
      (fs.zip items).foldlM (fun acc p => p.1.read p.2 acc) acc = .ok out.1 ∧
        out.2 = items.drop fs.length := by
  obtain ⟨a, rest⟩ := out
  induction fs generalizing acc n items with
  | nil => simp [readInOrder, pure, Except.pure, eq_comm]
  | cons f fs ih =>
      rw [List.forall_mem_cons] at hpresence
      cases items with
      | nil => simp [readInOrder, hpresence.1, ih hpresence.2]
      | cons d items =>
          rw [readInOrder]
          cases hread : f.read d acc with
          | error e => simp [hread, bind, Except.bind]
          | ok acc' => simpa [hread, bind, Except.bind] using ih hpresence.2

/-- **An array is read as a record** in which every field may be missing: it has no more items than
there are fields, and each item fits the field at its place. -/
theorem read_array_eq_ok_iff {items : List Document} {a : α}
    (hpresence : ∀ f ∈ r.fields, f.presence = .optional) :
    r.read .text (.array items true) = .ok a ↔ items.length ≤ r.fields.length ∧
      (r.fields.zip items).foldlM (fun acc p => p.1.read p.2 acc) r.blank = .ok a := by
  have hread : r.read .text (.array items true) = .ok a ↔
      r.readInOrder r.blank 0 r.fields items true = .ok (a, []) := by
    rw [read]
    rcases r.readInOrder r.blank 0 r.fields items true with e | ⟨b, _ | ⟨d, rest⟩⟩ <;>
      simp [bind, Except.bind, pure, Except.pure]
  rw [hread, readInOrder_eq_ok_iff hpresence, and_comm, eq_comm, List.drop_eq_nil_iff]

end RecordShape

end Scenarist.Json
