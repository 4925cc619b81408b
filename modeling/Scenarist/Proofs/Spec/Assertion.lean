import Scenarist.Proofs.Spec.Denotation

/-!
# Assertions About a Text

An author asks for a text on an element by the word "text" and the text between quotes (`asksFor`).
The test then expects the element to contain this text, with one exception: the word "visible" is
looked for in all of the data, the quoted text included, and decides before anything else. A text
that has this word in it, in capital letters or not, is lost, and the test expects no more than
that the element is visible.

## Main results

* `mentions_iff`: a word occurs in a text in letters of any case.
* `mentions_append_cons`: a word occurs on one side of a character that it does not have.
* `quotedSpan?_asksFor`: the text that is asked for is the first quoted span.
* `awaited_asksFor`: **the text that is asked for is expected** unless it mentions visibility.
-/

namespace Scenarist.Spec

variable {word xs ys t : List Char} {q c : Char}

/-! ### Words in a text -/

/-- The word, which is in small letters, **occurs** in the text in letters of any case. -/
def Mentions (word t : List Char) : Prop :=
  ∃ before w after, t = before ++ w ++ after ∧ w.map Char.toLower = word

/-- A word is found in the lower-case text exactly if the text mentions it. -/
theorem mentions_iff : Text.occursIn word (t.map Char.toLower) = true ↔ Mentions word t := by
  rw [Text.occursIn_iff]
  constructor
  · rintro ⟨a, b, h⟩
    obtain ⟨start, after, rfl, hstart, -⟩ := List.map_eq_append_iff.1 h
    obtain ⟨before, w, rfl, -, hw⟩ := List.map_eq_append_iff.1 hstart
    exact ⟨before, w, after, rfl, hw⟩
  · rintro ⟨before, w, after, rfl, rfl⟩
    exact ⟨before.map Char.toLower, after.map Char.toLower, by simp only [List.map_append]⟩

/-- A word is not found in the lower-case text exactly if the text does not mention it. -/
theorem not_mentions_iff :
    Text.occursIn word (t.map Char.toLower) = false ↔ ¬ Mentions word t := by
  rw [← mentions_iff, Bool.not_eq_true]

/-- A word that is mentioned is mentioned with more text behind it. -/
theorem Mentions.append_left (h : Mentions word xs) (ys : List Char) :
    Mentions word (xs ++ ys) := by
  obtain ⟨before, w, after, rfl, hw⟩ := h
  exact ⟨before, w, after ++ ys, List.append_assoc _ _ _, hw⟩

/-- A word that is mentioned is mentioned with more text before it. -/
theorem Mentions.append_right (h : Mentions word ys) (xs : List Char) :
    Mentions word (xs ++ ys) := by
  obtain ⟨before, w, after, rfl, hw⟩ := h
  exact ⟨xs ++ before, w, after, by simp only [List.append_assoc], hw⟩

/-- **A word occurs on one side of a character that it does not have.** -/
theorem mentions_append_cons (hc : c.toLower ∉ word) :
    Mentions word (xs ++ c :: ys) ↔ Mentions word xs ∨ Mentions word ys := by
  constructor
  · rintro ⟨before, w, after, h, rfl⟩
    have hnot : c ∉ w := fun hmem => hc (List.mem_map_of_mem hmem)
    rw [List.append_assoc] at h
    rcases List.append_eq_append_iff.1 h with ⟨ahead, rfl, hahead⟩ | ⟨rest, rfl, hrest⟩
    · -- the word begins behind the end of the first part
      cases ahead with
      | nil =>
          cases w with
          | nil => exact .inr ⟨[], [], ys, rfl, rfl⟩
          | cons d w =>
              obtain ⟨rfl, -⟩ := List.cons.inj hahead
              exact absurd List.mem_cons_self hnot
      | cons d ahead =>
          obtain ⟨-, rfl⟩ := List.cons.inj hahead
          exact .inr ⟨ahead, w, after, (List.append_assoc _ _ _).symm, rfl⟩
    · -- it begins in the first part, and would have the character if it did not end there
      rcases List.append_eq_append_iff.1 hrest with ⟨tail, rfl, -⟩ | ⟨tail, rfl, htail⟩
      · exact .inl ⟨before, w, tail, (List.append_assoc _ _ _).symm, rfl⟩
      · cases tail with
        | nil => exact .inl ⟨before, rest, [], by simp, by simp⟩
        | cons d tail =>
            obtain ⟨rfl, -⟩ := List.cons.inj htail
            exact absurd (List.mem_append_right rest List.mem_cons_self) hnot
  · rintro (h | h)
    · exact h.append_left _
    · have hrest : Mentions word (c :: ys) := h.append_right [c]
      exact hrest.append_right xs

/-! ### Asking for a text -/

/-- The data by which a step asks for a text, between two quotes. -/
def asksFor (q : Char) (t : List Char) : List Char := "text ".toList ++ q :: (t ++ [q])

/-- **The text that is asked for is the first quoted span**, if its quote is not in it. -/
theorem quotedSpan?_asksFor (hq : isQuote q = true) (ht : q ∉ t) :
    quotedSpan? (asksFor q t) = some t := by
  have hopening : "text ".toList.any isQuote = false := by decide
  refine quotedSpan?_eq_some_iff.2 ⟨"text ".toList, q, [], rfl, hq, ht, ?_⟩
  intro earlier c later hbefore hc
  have hmem : c ∈ "text ".toList := hbefore ▸ List.mem_append_right earlier List.mem_cons_self
  exact absurd hc (List.any_eq_false.1 hopening c hmem)

/-- What asks for a text mentions that it is one. -/
theorem mentions_text_asksFor (q : Char) (t : List Char) :
    Mentions "text".toList (asksFor q t) :=
  ⟨[], "text".toList, ' ' :: q :: (t ++ [q]), rfl, by decide⟩

/-- What is asked for mentions visibility exactly if the text does. -/
theorem mentions_visible_asksFor (hq : isQuote q = true) :
    Mentions "visible".toList (asksFor q t) ↔ Mentions "visible".toList t := by
  have hquote : q.toLower ∉ "visible".toList := by
    rcases (by simpa [isQuote] using hq : q = '\'' ∨ q = '"') with rfl | rfl <;> decide
  have hopening : ¬ Mentions "visible".toList "text ".toList := not_mentions_iff.1 (by decide)
  have hclosing : ¬ Mentions "visible".toList [] := not_mentions_iff.1 (by decide)
  have hasked : Mentions "visible".toList (asksFor q t) ↔
      Mentions "visible".toList "text ".toList ∨ Mentions "visible".toList (t ++ [q]) :=
    mentions_append_cons hquote
  have hquoted : Mentions "visible".toList (t ++ [q]) ↔
      Mentions "visible".toList t ∨ Mentions "visible".toList [] := mentions_append_cons hquote
  rw [hasked, hquoted, or_iff_right hopening, or_iff_left hclosing]

/-- What is asserted if a text is asked for. -/
theorem assertedText?_asksFor (hq : isQuote q = true) (ht : q ∉ t) :
    assertedText? (asksFor q t) =
      if Text.occursIn "visible".toList (t.map Char.toLower) then none else some t := by
  have hvisible : Text.occursIn "visible".toList ((asksFor q t).map Char.toLower) =
      Text.occursIn "visible".toList (t.map Char.toLower) := by
    rw [Bool.eq_iff_iff, mentions_iff, mentions_iff, mentions_visible_asksFor hq]
  rw [assertedText?, hvisible, if_pos (mentions_iff.2 (mentions_text_asksFor q t)),
    quotedSpan?_asksFor hq ht]

/-! ### What a test expects -/

/-- An expectation says which text the element shall contain, if any. -/
theorem expectation_inj {on : Locator} {a b : Option (List Char)} :
    on.expectation a = on.expectation b ↔ a = b := by
  refine ⟨fun h => ?_, fun h => by rw [h]⟩
  cases a with
  | none =>
      cases b with
      | none => rfl
      | some text =>
          obtain ⟨hmember, -⟩ := Expr.call.inj h
          exact absurd (Expr.member.inj hmember).2 (by decide)
  | some text =>
      cases b with
      | none =>
          obtain ⟨hmember, -⟩ := Expr.call.inj h
          exact absurd (Expr.member.inj hmember).2 (by decide)
      | some text' =>
          obtain ⟨-, harguments⟩ := Expr.call.inj h
          rw [Expr.literal.inj (List.cons.inj harguments).1]

/-- The step **asks for a text** on its target, between two quotes that are not in the text. -/
structure AsksForText (s : Step) (q : Char) (t : List Char) : Prop where
  action : s.action = .expect
  data : s.data = some (String.ofList (asksFor q t))
  quote : isQuote q = true
  closed : q ∉ t

/-- The call that is prescribed by a step that asks for a text. -/
theorem prescribed_asksFor {strategy : Strategy} {s : Step} (h : AsksForText s q t) :
    prescribed strategy s = (Locator.resolve strategy s.target).expectation
      (if Text.occursIn "visible".toList (t.map Char.toLower) then none else some t) := by
  simp only [prescribed, h.action, h.data, Option.getD_some, String.toList_ofList,
    assertedText?_asksFor h.quote h.closed]

/-- **A text that is asked for is expected unless it mentions visibility.** The test of a spec file
is read as a list of calls, one for each step. At the place of a step that asks for a text stands
the expectation that the element of its target contains exactly this text, if and only if the word
"visible" does not occur in the text in letters of any case; otherwise it is the expectation that
the element is visible, whatever the text. -/
theorem awaited_asksFor {o : SpecOptions} {s : Scenario} {i : Nat} {step : Step}
    (hstep : s.steps[i]? = some step) (h : AsksForText step q t) :
    (∃ before, (compile o s).toList = before ++ testText o.strategy s) ∧
    ∃ test e, readTestText? (testText o.strategy s) = some test ∧ test.awaited[i]? = some e ∧
      (e = (Locator.resolve o.strategy step.target).expectation (some t) ↔
        ¬ Mentions "visible".toList t) ∧
      (e = (Locator.resolve o.strategy step.target).expectation none ↔
        Mentions "visible".toList t) := by
  refine ⟨compile_eq_append_testText o s, _, prescribed o.strategy step,
    readTestText?_testText o.strategy s, by rw [List.getElem?_map, hstep]; rfl, ?_, ?_⟩
  · rw [prescribed_asksFor h, expectation_inj, ← mentions_iff]
    cases Text.occursIn "visible".toList (t.map Char.toLower) <;> simp
  · rw [prescribed_asksFor h, expectation_inj, ← mentions_iff]
    cases Text.occursIn "visible".toList (t.map Char.toLower) <;> simp

/-- A scenario that asks for a text that mentions visibility. -/
def banner : Scenario :=
  ⟨"s1", "Banner", [⟨.expect, "#banner", some "text 'Now visible'", "Check the banner"⟩],
    .empty, none⟩

/-- The text that is asked for on the banner is lost: its test expects that the banner is visible,
and no more. -/
theorem awaited_asksFor_banner :
    Mentions "visible".toList "Now visible".toList ∧
    ∃ test, readTestText? (testText .roleFirst banner) = some test ∧
      test.awaited[0]? = some ((Locator.selector "#banner".toList).expectation none) := by
  have hmentions : Mentions "visible".toList "Now visible".toList :=
    mentions_iff.1 (by decide +kernel)
  have hresolve : Locator.resolve .roleFirst "#banner" = .selector "#banner".toList := by
    decide +kernel
  obtain ⟨-, test, e, htest, he, -, hvisible⟩ :=
    awaited_asksFor (o := .default) (s := banner) (i := 0) rfl
      (q := '\'') (t := "Now visible".toList) ⟨rfl, by decide +kernel, rfl, by decide +kernel⟩
  refine ⟨hmentions, test, htest, ?_⟩
  rw [he, hvisible.2 hmentions]
  exact congrArg (fun on : Locator => some (on.expectation none)) hresolve

end Scenarist.Spec
