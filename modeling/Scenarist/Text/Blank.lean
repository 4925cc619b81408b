/-!
# Blank space

The characters that count as blank when text is trimmed or cut into words: the members of
Unicode's `White_Space` property. Trimming removes blanks at both ends, and `words` cuts a
text at every run of blanks.

## Main results

* `not_isBlank_of_mem_words`: no word holds a blank.
-/

namespace Scenarist.Text

/-- The characters of Unicode's `White_Space` property. -/
def isBlank (c : Char) : Bool :=
  let n := c.toNat
  (9 ≤ n && n ≤ 13) || n == 32 || n == 0x85 || n == 0xA0 || n == 0x1680 ||
    (0x2000 ≤ n && n ≤ 0x200A) || n == 0x2028 || n == 0x2029 || n == 0x202F ||
    n == 0x205F || n == 0x3000

/-- The text without its leading blanks. -/
def trimStart (cs : List Char) : List Char := cs.dropWhile isBlank

/-- The text without its trailing blanks. -/
def trimEnd (cs : List Char) : List Char := (trimStart cs.reverse).reverse

/-- The text without the blanks at either end. -/
def trim (cs : List Char) : List Char := trimEnd (trimStart cs)

/-- Cuts at blanks; `word` is the word read so far, backwards. -/
def wordsFrom (word : List Char) : List Char → List (List Char)
  | [] => if word.isEmpty then [] else [word.reverse]
  | c :: cs =>
    if isBlank c then
      if word.isEmpty then wordsFrom [] cs else word.reverse :: wordsFrom [] cs
    else wordsFrom (c :: word) cs

/-- The maximal runs of characters that are not blank, in order. -/
def words (cs : List Char) : List (List Char) := wordsFrom [] cs

/-- The text holds nothing but blanks. -/
def isAllBlank (cs : List Char) : Bool := cs.all isBlank

theorem not_isBlank_of_mem_wordsFrom {cs word w : List Char}
    (hword : ∀ c ∈ word, isBlank c = false) (h : w ∈ wordsFrom word cs) :
    ∀ c ∈ w, isBlank c = false := by
  induction cs generalizing word with
  | nil =>
    unfold wordsFrom at h
    split at h
    · simp at h
    · simp only [List.mem_singleton] at h
      subst h
      simpa using hword
  | cons c cs ih =>
    unfold wordsFrom at h
    split at h
    · split at h
      · exact ih (by simp) h
      · rcases List.mem_cons.1 h with rfl | h
        · simpa using hword
        · exact ih (by simp) h
    · refine ih ?_ h
      intro d hd
      rcases List.mem_cons.1 hd with rfl | hd
      · simpa using ‹¬isBlank d = true›
      · exact hword d hd

/-- No word holds a blank. -/
theorem not_isBlank_of_mem_words {cs w : List Char} (h : w ∈ words cs) :
    ∀ c ∈ w, isBlank c = false :=
  not_isBlank_of_mem_wordsFrom (by simp) h

end Scenarist.Text

namespace Scenarist

/-- The text without the blanks at either end. -/
def trimmed (s : String) : String := String.ofList (Text.trim s.toList)

/-- The text holds nothing but blanks. -/
def isBlankText (s : String) : Bool := Text.isAllBlank s.toList

/-- The text on one line: its words, joined by single spaces. -/
def onOneLine (s : String) : String :=
  " ".intercalate ((Text.words s.toList).map String.ofList)

end Scenarist
