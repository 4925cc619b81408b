/-!
# Searching

Whether a text occurs in another.

## Main results

* `occursIn_iff`: a text occurs in another when the other is the text with something around it.
-/

namespace Scenarist.Text

/-- The pattern occurs somewhere in the text. -/
def occursIn (pattern : List Char) : List Char → Bool
  | [] => pattern.isEmpty
  | c :: cs => pattern.isPrefixOf (c :: cs) || occursIn pattern cs

/-- A text occurs in another when the other is the text with something around it. -/
theorem occursIn_iff {pattern cs : List Char} :
    occursIn pattern cs = true ↔ ∃ a b, cs = a ++ pattern ++ b := by
  induction cs with
  | nil =>
    constructor
    · intro h
      exact ⟨[], [], by simpa [occursIn] using h.symm⟩
    · rintro ⟨a, b, h⟩
      have hp : pattern = [] := by
        cases pattern with
        | nil => rfl
        | cons p ps => simp at h
      simp [occursIn, hp]
  | cons c cs ih =>
    simp only [occursIn, Bool.or_eq_true, ih, List.isPrefixOf_iff_prefix]
    constructor
    · rintro (⟨b, hb⟩ | ⟨a, b, hab⟩)
      · exact ⟨[], b, by simp [hb]⟩
      · exact ⟨c :: a, b, by simp [hab]⟩
    · rintro ⟨a, b, h⟩
      cases a with
      | nil => exact .inl ⟨b, by simpa using h.symm⟩
      | cons x a =>
        simp only [List.cons_append, List.cons.injEq] at h
        exact .inr ⟨a, b, h.2⟩

end Scenarist.Text
