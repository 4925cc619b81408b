import Scenarist.Proofs.Files.Place
import Scenarist.Spec.Source

/-!
# The Names of Spec Files

The name of a spec file is made of the name of its scenario, in which all but letters and digits
have become underscores, of a time stamp, and of an ending. Whatever the scenario is called, this
is a **name**, of an entry of one directory (`fileName_isName`, `slash_not_mem_fileName`).

Of two files with one stamp, the names are the same exactly when the names of the scenarios are
the same after that replacement.

## Main results

* `fileName_eq_iff`: when two spec files of one stamp have the same name.
* `fileName_ne_append_json`: no spec file has the name of a snapshot.
-/

namespace Scenarist.Spec

/-! ### Time stamps -/

/-- No digit is a slash. -/
theorem slash_not_mem_digitChars (n : Nat) : '/' ∉ Decimal.digitChars n := fun h =>
  absurd (Decimal.isDigit_of_mem_digitChars h) (by decide)

/-- Zeros before a number bring no slash. -/
theorem slash_not_mem_padded (width n : Nat) : '/' ∉ Instant.padded width n := by
  simp only [Instant.padded, List.mem_append, not_or]
  refine ⟨fun h => ?_, slash_not_mem_digitChars n⟩
  exact absurd (List.eq_of_mem_replicate h) (by decide)

/-- A year may have a sign, which is no slash. -/
theorem slash_not_mem_yearText (year : Int) : '/' ∉ Instant.yearText year := by
  rw [Instant.yearText]
  split
  · exact slash_not_mem_padded 4 _
  · simp only [List.mem_cons, not_or]
    refine ⟨?_, slash_not_mem_padded 4 _⟩
    split <;> decide

/-- A moment is written with dashes and colons, and without a slash. -/
theorem slash_not_mem_render (t : Instant) : '/' ∉ t.render .millis := by
  simp [Instant.render, Instant.fractionText, slash_not_mem_padded, slash_not_mem_yearText]

/-- A stamp is a moment with some characters replaced, none of them by a slash. -/
theorem slash_not_mem_stamp (t : Instant) : '/' ∉ (stamp t).toList := by
  rw [stamp, String.toList_ofList, List.mem_map]
  rintro ⟨c, hc, h⟩
  split at h
  · exact absurd h (by decide)
  · exact slash_not_mem_render t (h ▸ hc)

/-! ### Names -/

/-- No letter or digit is a slash in lower case. -/
theorem toLower_ne_slash {c : Char} (hc : c.isAlphanum) : c.toLower ≠ '/' := by
  unfold Char.toLower
  split
  · next hupper =>
    intro h
    have hval : (c.val.toNat + 32) % 4294967296 = 47 :=
      congrArg (fun d : Char => d.val.toNat) h
    have hlow : 65 ≤ c.val.toNat := UInt32.le_iff_toNat_le.1 hupper.1
    have hhigh : c.val.toNat ≤ 90 := UInt32.le_iff_toNat_le.1 hupper.2
    omega
  · rintro rfl
    exact absurd hc (by decide)

/-- **A sanitized name has no slash**: all but letters and digits is replaced. -/
theorem slash_not_mem_sanitizeName (name : String) : '/' ∉ (sanitizeName name).toList := by
  rw [sanitizeName, String.toList_ofList, List.mem_map]
  rintro ⟨c, -, h⟩
  split at h
  · next hc => exact toLower_ne_slash hc h
  · exact absurd h (by decide)

/-- What a file name has after the name of the scenario. -/
def fileEnding (t : Instant) (l : Language) : String := "_" ++ stamp t ++ ".spec." ++ l.extension

/-- The name of a file is a sanitized name and an ending, which is the same for all scenarios of a
run. -/
theorem fileName_eq_append (s : Scenario) (t : Instant) (l : Language) :
    fileName s t l = sanitizeName s.name ++ fileEnding t l := by
  simp only [fileName, fileEnding, String.append_assoc]

/-- **Two spec files of one stamp have the same name** exactly when the names of the scenarios
differ in nothing but case and characters that are no letters or digits. -/
theorem fileName_eq_iff {r s : Scenario} {t : Instant} {l : Language} :
    fileName r t l = fileName s t l ↔ sanitizeName r.name = sanitizeName s.name := by
  rw [fileName_eq_append, fileName_eq_append, String.append_left_inj]

/-- No spec file is in a directory below. -/
theorem slash_not_mem_fileName (s : Scenario) (t : Instant) (l : Language) :
    '/' ∉ (fileName s t l).toList := by
  have hext : '/' ∉ l.extension.toList := by cases l <;> decide
  simp only [fileName, String.toList_append, List.mem_append, not_or]
  exact ⟨⟨⟨⟨slash_not_mem_sanitizeName s.name, by decide⟩, slash_not_mem_stamp t⟩, by decide⟩, hext⟩

/-- Whatever a scenario is called, its file has a **name**. -/
theorem fileName_isName (s : Scenario) (t : Instant) (l : Language) :
    FileTree.IsName (fileName s t l) := by
  have hmem : '_' ∈ (fileName s t l).toList := by simp [fileName]
  exact FileTree.isName_of_mem hmem (by decide)

/-- No spec file has the name of a snapshot. -/
theorem fileName_ne_append_json (s : Scenario) (t : Instant) (l : Language) (z : String) :
    fileName s t l ≠ z ++ ".json" := by
  intro h
  have hlast : (fileName s t l).toList.getLast? = some 's' := by
    cases l <;> simp only [fileName, String.toList_append, List.getLast?_append] <;> rfl
  rw [h, String.toList_append, List.getLast?_append] at hlast
  simp at hlast

end Scenarist.Spec
