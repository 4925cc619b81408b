/-!
# Tag sets

The tags of a scenario: a set of texts, kept as the list of its members in ascending order,
so that equal sets are equal lists.

## Main results

* `insertName_ascending`: inserting keeps the list ascending.
* `mem_insertName`: inserting adds one member and loses none.
* `insertNames_self`: a list that is ascending already is its own set.
-/

namespace Scenarist

namespace TagSet

/-- Puts a name into its place in an ascending list. -/
def insertName (name : String) : List String → List String
  | [] => [name]
  | n :: rest =>
    if name < n then name :: n :: rest
    else if name = n then n :: rest
    else n :: insertName name rest

/-- Of two different names one is less. -/
theorem lt_of_not_lt_of_ne {a b : String} (h : ¬ a < b) (hne : a ≠ b) : b < a := by
  by_cases hlt : b < a
  · exact hlt
  · exact absurd (String.le_antisymm (String.not_lt.1 hlt) (String.not_lt.1 h)) hne

/-- Inserting adds one member and loses none. -/
theorem mem_insertName {name n : String} {names : List String} :
    n ∈ insertName name names ↔ n = name ∨ n ∈ names := by
  induction names with
  | nil => simp [insertName]
  | cons m rest ih =>
    unfold insertName
    split
    · simp
    · split
      · next h => subst h; simp
      · simp only [List.mem_cons, ih]
        constructor
        · rintro (h | h | h)
          · exact .inr (.inl h)
          · exact .inl h
          · exact .inr (.inr h)
        · rintro (h | h | h)
          · exact .inr (.inl h)
          · exact .inl h
          · exact .inr (.inr h)

/-- Inserting keeps the list ascending. -/
theorem insertName_ascending {name : String} {names : List String}
    (h : names.Pairwise (· < ·)) : (insertName name names).Pairwise (· < ·) := by
  induction names with
  | nil => simp [insertName]
  | cons n rest ih =>
    have hp := List.pairwise_cons.1 h
    unfold insertName
    split
    · next hlt =>
      refine List.pairwise_cons.2 ⟨fun m hm => ?_, h⟩
      rcases List.mem_cons.1 hm with rfl | hm
      · exact hlt
      · exact String.lt_trans hlt (hp.1 m hm)
    · split
      · exact h
      · next hnot hne =>
        refine List.pairwise_cons.2 ⟨fun m hm => ?_, ih hp.2⟩
        rcases mem_insertName.1 hm with rfl | hm
        · exact lt_of_not_lt_of_ne hnot hne
        · exact hp.1 m hm

/-- Inserts names one after another. -/
def insertNames (names : List String) : List String := names.foldr insertName []

/-- Names that are inserted one by one ascend. -/
theorem insertNames_ascending (names : List String) : (insertNames names).Pairwise (· < ·) := by
  induction names with
  | nil => simp [insertNames]
  | cons n rest ih => exact insertName_ascending ih

/-- A list that is ascending already is its own set. -/
theorem insertNames_self {names : List String} (h : names.Pairwise (· < ·)) :
    insertNames names = names := by
  induction names with
  | nil => rfl
  | cons n rest ih =>
    have hp := List.pairwise_cons.1 h
    show insertName n (insertNames rest) = n :: rest
    rw [ih hp.2]
    cases rest with
    | nil => rfl
    | cons m rest =>
      have hlt : n < m := hp.1 m (by simp)
      simp [insertName, hlt]

end TagSet

/-- A set of tags, in ascending order. -/
structure TagSet where
  names : List String
  ascending : names.Pairwise (· < ·)
deriving DecidableEq

namespace TagSet

/-- The set of the given names. -/
def ofList (names : List String) : TagSet := ⟨insertNames names, insertNames_ascending names⟩

/-- The set without members. -/
def empty : TagSet := ofList []

/-- The set has no members. -/
def isEmpty (t : TagSet) : Bool := t.names.isEmpty

/-- The members joined by commas. -/
def text (t : TagSet) : String := ", ".intercalate t.names

instance : Inhabited TagSet := ⟨empty⟩

instance : Repr TagSet := ⟨fun t n => reprPrec t.names n⟩

@[simp] theorem ofList_names (t : TagSet) : ofList t.names = t := by
  cases t with
  | mk names h => simp only [ofList, insertNames_self h]

end TagSet

end Scenarist
