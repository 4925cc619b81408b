import Scenarist.Proofs.Json.Document

/-!
# What Stands Behind an Object

A text may go on after the object at its start. The reader reads the object all the same, and then
knows whether anything but blanks is left (`Document.ofText_object_append`). For this the scanner
must come to its end on every text and not on those of the grammar only: each token that it reads
takes something from the text (`nextToken_length`), and so the fuel it is given is enough
(`lexes_tokens`).

## Main results

* `nextToken_length`: **each token takes something from the text**.
* `lexes_tokens`: the tokens of a text do not depend on the fuel.
* `Document.ofText_object_append`: **an object is read whatever stands behind it**.
-/

namespace Scenarist.Json

/-! ### Progress -/

/-- Behind a literal there is less of the text. -/
theorem stringRest_length {acc : Option (List Char)} {half : Option Nat} {cs rest : List Char}
    {v : Option String} (h : stringRest acc half cs = some (v, rest)) :
    rest.length < cs.length := by
  fun_induction stringRest acc half cs
  all_goals try simp only [List.length_cons]
  all_goals grind

/-- What is left behind digits is no longer than the text. -/
theorem spanDigits_length (cs : List Char) : (spanDigits cs).2.length ≤ cs.length := by
  rw [spanDigits, List.span_eq_takeWhile_dropWhile]
  exact (List.dropWhile_suffix _).length_le

/-- What is left behind a whole part is shorter than the text. -/
theorem wholePart_length {cs whole rest : List Char} (h : wholePart cs = some (whole, rest)) :
    rest.length < cs.length := by
  have hparts : (spanDigits cs).1 ++ (spanDigits cs).2 = cs := by
    rw [spanDigits, List.span_eq_takeWhile_dropWhile]
    exact List.takeWhile_append_dropWhile
  rw [wholePart] at h
  split at h
  next digits rest' hspan =>
  split at h
  · cases h
  · cases h
  · next hne _ =>
    cases h
    rw [hspan] at hparts
    have hpos := List.length_pos_iff.2 hne
    rw [← hparts, List.length_append]
    dsimp only
    omega

/-- What is left behind a fraction, which may be empty, is no longer than the text. -/
theorem fractionPart_length {cs rest : List Char} {f : Option (List Char)}
    (h : fractionPart cs = some (f, rest)) : rest.length ≤ cs.length := by
  rw [fractionPart.eq_def] at h
  split at h
  · next cs =>
    have hspan := spanDigits_length cs
    simp only at h
    split at h
    · cases h
    · cases h
      rw [List.length_cons]
      omega
  · cases h
    exact Nat.le_refl _

/-- What is left behind an exponent, which may be empty, is no longer than the text. -/
theorem exponentPart_length {cs rest : List Char} {e : Option (Bool × List Char)}
    (h : exponentPart cs = some (e, rest)) : rest.length ≤ cs.length := by
  rw [exponentPart.eq_def] at h
  split at h
  · split at h
    · dsimp only at h
      split at h
      all_goals
        split at h
        · cases h
        · cases h
          refine (spanDigits_length _).trans ?_
          simp only [List.length_cons]
          omega
    · cases h
      exact Nat.le_refl _
  · cases h
    exact Nat.le_refl _

/-- What is left behind a number is shorter than the text. -/
theorem unsignedNumber_length {negative : Bool} {cs rest : List Char} {v : Option Number}
    (h : unsignedNumber negative cs = some (v, rest)) : rest.length < cs.length := by
  simp only [unsignedNumber, Option.bind_eq_bind, Option.bind_eq_some_iff] at h
  obtain ⟨⟨whole, cs₁⟩, hwhole, ⟨f, cs₂⟩, hfraction, ⟨e, cs₃⟩, hexponent, h⟩ := h
  have hrest : rest = cs₃ := by
    cases f <;> cases e <;> cases h <;> rfl
  subst hrest
  exact (exponentPart_length hexponent).trans_lt
    ((fractionPart_length hfraction).trans_lt (wholePart_length hwhole))

/-- What is left behind a number with its sign is shorter than the text. -/
theorem numberToken_length {cs rest : List Char} {v : Option Number}
    (h : numberToken cs = some (v, rest)) : rest.length < cs.length := by
  rw [numberToken.eq_def] at h
  split at h
  · exact Nat.lt_succ_of_lt (unsignedNumber_length h)
  · exact unsignedNumber_length h

/-- **Each token takes something from the text.** -/
theorem nextToken_length {cs rest : List Char} {t : Token} (h : nextToken cs = some (t, rest)) :
    rest.length < cs.length := by
  rw [nextToken.eq_def] at h
  split at h
  case h_10 =>
    obtain ⟨⟨v, cs⟩, hread, heq⟩ := Option.map_eq_some_iff.1 h
    cases heq
    exact Nat.lt_succ_of_lt (stringRest_length hread)
  case h_11 =>
    obtain ⟨⟨v, cs⟩, hread, heq⟩ := Option.map_eq_some_iff.1 h
    cases heq
    exact numberToken_length hread
  all_goals
    cases h
    simp only [List.length_cons]
    omega

/-! ### Whole texts -/

/-- Fuel for each character is enough, as each token takes something from the text. -/
theorem tokensFrom_congr {fuel fuel' : Nat} {cs : List Char} (h : cs.length < fuel)
    (h' : cs.length < fuel') : tokensFrom fuel cs = tokensFrom fuel' cs := by
  induction fuel generalizing fuel' cs with
  | zero => cases h
  | succ fuel ih =>
      cases fuel' with
      | zero => cases h'
      | succ fuel' =>
          have hdrop : (cs.dropWhile isSpace).length ≤ cs.length :=
            (List.dropWhile_suffix _).length_le
          rw [tokensFrom, tokensFrom]
          split
          · rfl
          · split
            · rfl
            · next hnext =>
              have hrest := nextToken_length hnext
              exact congrArg _ (ih (by omega) (by omega))

/-- **The tokens of a text do not depend on the fuel.** -/
theorem lexes_tokens (cs : List Char) : Lexes cs (tokens cs) :=
  fun _ hfuel => tokensFrom_congr hfuel (Nat.lt_succ_self _)

/-- Blanks have no tokens, and nothing else is without. -/
theorem tokens_eq_nil_iff {cs : List Char} : tokens cs = [] ↔ Blanks cs := by
  have hblanks : cs.dropWhile isSpace = [] ↔ Blanks cs := by
    rw [List.dropWhile_eq_nil_iff, Blanks, List.all_eq_true]
  rw [tokens, tokensFrom, ← hblanks]
  split
  · next hnil => exact iff_of_true rfl hnil
  · next hcons =>
    split <;> exact iff_of_false (List.cons_ne_nil _ _) hcons

/-- The tokens of an object are read whatever stands behind it. -/
theorem Lexes.object {members : List (Option String × Document)} {cs rest : List Char}
    {ts : List Token} (hd : Spells (.object members true) cs) (h : Lexes rest ts) :
    Lexes (cs ++ rest) ((Document.object members true).tokens ++ ts) := by
  have hclose := h.sign '\x7d' rfl rfl
  cases hd with
  | emptyObject hw =>
      simpa [Document.tokens, membersTokens] using (hclose.blanks hw).sign '\x7b' rfl rfl
  | object hmembers =>
      have hinside := Lexes.members hmembers (stops_cons rfl (by decide)) hclose
      simpa [Document.tokens] using hinside.sign '\x7b' rfl rfl

/-- **An object is read whatever stands behind it**, and the reader knows whether anything but
blanks does. -/
theorem Document.ofText_object_append {members : List (Option String × Document)}
    {cs : List Char} (h : Spells (.object members true) cs) (rest : List Char) :
    ofText (cs ++ rest) = ((Document.object members true).limited 0, rest.all isSpace) := by
  have htokens := ((lexes_tokens rest).object h).tokens_eq
  have hfuel : (Document.object members true).tokens.length ≤
      (Json.tokens (cs ++ rest)).length + 1 := by
    rw [htokens, List.length_append]
    omega
  have hread := value_tokens h hfuel 0 (Json.tokens rest)
  rw [← htokens] at hread
  rw [ofText, hread]
  cases hrest : Json.tokens rest with
  | nil => rw [tokens_eq_nil_iff.1 hrest]
  | cons t ts =>
      have hsome : rest.all isSpace = false := by
        rw [← Bool.not_eq_true, ← Blanks, ← tokens_eq_nil_iff, hrest]
        simp
      rw [hsome]

end Scenarist.Json
