import Mathlib.Data.List.DropRight
import Mathlib.Data.List.TakeDrop
import Scenarist.Spec.Statement

/-!
# What Targets and Data Mean

The texts of a step that decide what its statement is about, said without the functions that read
them: what a target picks (`Picks`), and what is the first quoted span of a text (`FirstSpan`).
Both readings are exact, and so each of these relations holds of one result at most.

## Main results

* `strip_eq_iff`: what is left of a text without certain characters at its ends.
* `roleExpression?_eq_some_iff`: the form of a role expression.
* `resolve_eq_iff`: **what a target picks**.
* `quotedSpan?_eq_some_iff`: the first quoted span.
-/

namespace Scenarist.Spec

variable {cs t name : List Char}

/-! ### Stripping -/

/-- The text is what is **left of another without the characters at its ends** that have a
property. -/
structure Stripped (p : Char → Bool) (cs t : List Char) : Prop where
  around : ∃ before after, cs = before ++ t ++ after ∧ before.all p = true ∧ after.all p = true
  first : ∀ c, t.head? = some c → p c = false
  last : ∀ c, t.getLast? = some c → p c = false

/-- Dropping goes up to the first character that is kept. -/
theorem dropWhile_append_of_stop {p : Char → Bool} {xs ys : List Char} (hxs : xs.all p = true)
    (hys : ∀ c, ys.head? = some c → p c = false) : (xs ++ ys).dropWhile p = ys := by
  rw [List.dropWhile_append_of_pos (List.all_eq_true.1 hxs)]
  cases ys with
  | nil => rfl
  | cons y ys =>
      have hy : ¬ p y = true := by simp [hys y rfl]
      rw [List.dropWhile_cons_of_neg hy]

/-- The same from the other end. -/
theorem rdropWhile_append_of_stop {p : Char → Bool} {xs ys : List Char}
    (hxs : ∀ c, xs.getLast? = some c → p c = false) (hys : ys.all p = true) :
    (xs ++ ys).rdropWhile p = xs := by
  have hreverse : ∀ c, xs.reverse.head? = some c → p c = false := by
    intro c hc
    rw [List.head?_reverse] at hc
    exact hxs c hc
  rw [List.rdropWhile, List.reverse_append,
    dropWhile_append_of_stop (by rw [List.all_reverse, hys]) hreverse, List.reverse_reverse]

/-- A text is cut before the first character that does not belong to the first part. -/
theorem span_append_of_stop {p : Char → Bool} {xs ys : List Char} (hxs : xs.all p = true)
    (hys : ∀ c, ys.head? = some c → p c = false) : (xs ++ ys).span p = (xs, ys) := by
  have hnone : ys.takeWhile p = [] := by
    cases ys with
    | nil => rfl
    | cons y ys =>
        have hy : ¬ p y = true := by simp [hys y rfl]
        rw [List.takeWhile_cons_of_neg hy]
  rw [List.span_eq_takeWhile_dropWhile, dropWhile_append_of_stop hxs hys,
    List.takeWhile_append_of_pos (List.all_eq_true.1 hxs), hnone, List.append_nil]

/-- A span is the longest beginning of one kind. -/
theorem span_eq_iff {p : Char → Bool} {xs ys : List Char} : cs.span p = (xs, ys) ↔
    cs = xs ++ ys ∧ xs.all p = true ∧ ∀ c, ys.head? = some c → p c = false := by
  constructor
  · intro h
    rw [List.span_eq_takeWhile_dropWhile] at h
    cases h
    refine ⟨List.takeWhile_append_dropWhile.symm, List.all_takeWhile, fun c hc => ?_⟩
    have hfirst := List.head?_dropWhile_not p cs
    rw [hc] at hfirst
    exact hfirst
  · rintro ⟨rfl, hxs, hys⟩
    exact span_append_of_stop hxs hys

/-- **Stripping a text at both ends** leaves what is left of it without the characters there. -/
theorem strip_eq_iff {p : Char → Bool} :
    ((cs.dropWhile p).reverse.dropWhile p).reverse = t ↔ Stripped p cs t := by
  change (cs.dropWhile p).rdropWhile p = t ↔ _
  constructor
  · rintro rfl
    refine ⟨⟨cs.takeWhile p, (cs.dropWhile p).rtakeWhile p, ?_, List.all_takeWhile, ?_⟩, ?_, ?_⟩
    · rw [List.append_assoc, List.rdropWhile_append_rtakeWhile, List.takeWhile_append_dropWhile]
    · exact List.all_eq_true.2 fun _ hc => List.mem_rtakeWhile_imp hc
    · intro c hc
      obtain ⟨rest, hrest⟩ := List.rdropWhile_prefix p (cs.dropWhile p)
      have hfirst := List.head?_dropWhile_not p cs
      rw [← hrest, List.head?_append, hc] at hfirst
      exact hfirst
    · intro c hc
      have hne : (cs.dropWhile p).rdropWhile p ≠ [] := by
        intro hnil
        rw [hnil] at hc
        cases hc
      rw [List.getLast?_eq_some_getLast hne] at hc
      cases hc
      simpa using List.rdropWhile_last_not p (cs.dropWhile p) hne
  · rintro ⟨⟨before, after, rfl, hbefore, hafter⟩, hfirst, hlast⟩
    cases t with
    | nil =>
        have hall : (before ++ [] ++ after).all p = true := by
          rw [List.append_nil, List.all_append, hbefore, hafter]
          rfl
        rw [List.dropWhile_eq_nil_iff.2 (List.all_eq_true.1 hall)]
        rfl
    | cons c t =>
        rw [List.append_assoc, dropWhile_append_of_stop hbefore (by simpa using hfirst),
          rdropWhile_append_of_stop hlast hafter]

/-- Trimming strips blanks. -/
theorem trim_eq_iff : Text.trim cs = t ↔ Stripped Text.isBlank cs t := strip_eq_iff

/-- Unquoting strips quotes, of either kind and however many. -/
theorem stripQuotes_eq_iff : stripQuotes cs = t ↔ Stripped isQuote cs t := strip_eq_iff

/-! ### Role expressions -/

/-- The text is a **role expression**: letters, which stand for the role in lower case, and a name
between two quotes that are not in the name. -/
def RoleExpression (cs role name : List Char) : Prop :=
  ∃ letters q, cs = "role=".toList ++ letters ++ "[name=".toList ++ q :: name ++ [q, ']'] ∧
    letters ≠ [] ∧ letters.all Char.isAlpha = true ∧ isQuote q = true ∧ q ∉ name ∧
    role = letters.map Char.toLower

/-- A text without a character. -/
theorem all_bne_iff {q : Char} : name.all (· != q) = true ↔ q ∉ name := by
  rw [List.all_eq_true]
  constructor
  · intro h hq
    simpa using h q hq
  · intro h c hc
    rw [bne_iff_ne]
    rintro rfl
    exact h hc

/-- A name ends at the first quote, and the bracket after it is the end. -/
theorem quotedName?_eq_some_iff {q : Char} :
    quotedName? q cs = some name ↔ cs = name ++ [q, ']'] ∧ q ∉ name := by
  constructor
  · intro h
    rw [quotedName?] at h
    split at h
    · next inner c hspan =>
      obtain ⟨rfl, hinner, -⟩ := span_eq_iff.1 hspan
      split at h
      · next hc =>
        subst hc
        cases h
        exact ⟨rfl, all_bne_iff.1 hinner⟩
      · cases h
    · cases h
  · rintro ⟨rfl, hq⟩
    have hspan : (name ++ [q, ']']).span (· != q) = (name, [q, ']']) :=
      span_eq_iff.2 ⟨rfl, all_bne_iff.2 hq, by rintro c ⟨⟩; simp⟩
    rw [quotedName?, hspan]
    exact if_pos rfl

/-- A name stands between two quotes of one kind, before the bracket at the end. -/
theorem closingName?_eq_some_iff :
    closingName? cs = some name ↔
      ∃ q, isQuote q = true ∧ cs = q :: name ++ [q, ']'] ∧ q ∉ name := by
  constructor
  · intro h
    unfold closingName? at h
    split at h
    · next rest =>
      obtain ⟨rfl, hq⟩ := quotedName?_eq_some_iff.1 h
      exact ⟨'\'', rfl, rfl, hq⟩
    · next rest =>
      obtain ⟨rfl, hq⟩ := quotedName?_eq_some_iff.1 h
      exact ⟨'"', rfl, rfl, hq⟩
    · cases h
  · rintro ⟨q, hquote, rfl, hq⟩
    have hname := quotedName?_eq_some_iff.2 ⟨rfl, hq⟩
    simp only [isQuote, Bool.or_eq_true, beq_iff_eq] at hquote
    rcases hquote with rfl | rfl
    · exact hname
    · exact hname

/-- **The form of a role expression.** -/
theorem roleExpression?_eq_some_iff {role : List Char} :
    roleExpression? cs = some (role, name) ↔ RoleExpression cs role name := by
  constructor
  · intro h
    obtain ⟨rest, hrest, hcut⟩ := Option.bind_eq_some_iff.1 h
    rcases hspan : rest.span Char.isAlpha with ⟨letters, tail⟩
    rw [hspan] at hcut
    dsimp only at hcut
    split at hcut
    · cases hcut
    · next hne =>
      obtain ⟨closing, hclosing, hread⟩ := Option.bind_eq_some_iff.1 hcut
      obtain ⟨_, hname, hread⟩ := Option.bind_eq_some_iff.1 hread
      cases hread
      obtain ⟨q, hquote, rfl, hq⟩ := closingName?_eq_some_iff.1 hname
      obtain rfl := List.isPrefixOf?_eq_some_iff_append_eq.1 hclosing
      obtain ⟨rfl, hletters, -⟩ := span_eq_iff.1 hspan
      obtain rfl := List.isPrefixOf?_eq_some_iff_append_eq.1 hrest
      refine ⟨letters, q, ?_, by simpa using hne, hletters, hquote, hq, rfl⟩
      simp only [List.append_assoc, List.cons_append]
  · rintro ⟨letters, q, rfl, hne, hletters, hquote, hq, rfl⟩
    have hclosing : closingName? (q :: name ++ [q, ']']) = some name :=
      closingName?_eq_some_iff.2 ⟨q, hquote, rfl, hq⟩
    have hspan : (letters ++ ("[name=".toList ++ (q :: name ++ [q, ']']))).span Char.isAlpha =
        (letters, "[name=".toList ++ (q :: name ++ [q, ']'])) :=
      span_eq_iff.2 ⟨rfl, hletters, by rintro c ⟨⟩; rfl⟩
    have hempty : ¬ letters.isEmpty = true := by simpa using hne
    rw [roleExpression?, List.append_assoc, List.append_assoc, List.append_assoc,
      List.isPrefixOf?_eq_some_iff_append_eq.2 rfl]
    simp only [Option.bind_eq_bind, Option.bind_some, hspan, if_neg hempty,
      List.isPrefixOf?_eq_some_iff_append_eq.2 rfl, hclosing]
    rfl

/-! ### What a target picks -/

/-- **What a target picks**, its blanks at both ends left out: an element by role, if role
expressions are read at all and the target is one; otherwise an element by text, if the target
begins like that, the text being without the quotes around it; otherwise an element by selector,
which is the target itself. -/
inductive Picks (strategy : Strategy) (cs : List Char) : Locator → Prop where
  | role {r n : List Char} (h : strategy = .roleFirst) (hrole : RoleExpression cs r n) :
      Picks strategy cs (.role r n)
  | text {quoted t : List Char} (h : strategy = .roleFirst → ∀ r n, ¬ RoleExpression cs r n)
      (htext : cs = "text=".toList ++ quoted) (ht : Stripped isQuote quoted t) :
      Picks strategy cs (.text t)
  | selector (h : strategy = .roleFirst → ∀ r n, ¬ RoleExpression cs r n)
      (hno : ∀ quoted, cs ≠ "text=".toList ++ quoted) : Picks strategy cs (.selector cs)

/-- The role expression that a target is read as, if any. -/
def byRole? (strategy : Strategy) (cs : List Char) : Option (List Char × List Char) :=
  if strategy = .roleFirst then roleExpression? cs else none

/-- A role is looked for where roles come first, and the target is an expression of one. -/
theorem byRole?_eq_some_iff {strategy : Strategy} {r n : List Char} :
    byRole? strategy cs = some (r, n) ↔ strategy = .roleFirst ∧ RoleExpression cs r n := by
  rw [byRole?, ← roleExpression?_eq_some_iff]
  split
  · next h => simp [h]
  · next h => simp [h]

/-- No role is looked for where the target is no expression of one. -/
theorem byRole?_eq_none_iff {strategy : Strategy} : byRole? strategy cs = none ↔
    (strategy = .roleFirst → ∀ r n, ¬ RoleExpression cs r n) := by
  constructor
  · intro hnone h r n hrole
    rw [byRole?_eq_some_iff.2 ⟨h, hrole⟩] at hnone
    cases hnone
  · intro h
    rcases hsome : byRole? strategy cs with _ | ⟨r, n⟩
    · rfl
    · obtain ⟨hstrategy, hrole⟩ := byRole?_eq_some_iff.1 hsome
      exact absurd hrole (h hstrategy r n)

/-- **What a trimmed target is located by.** -/
theorem ofTrimmed_eq_iff {strategy : Strategy} {on : Locator} :
    Locator.ofTrimmed strategy cs = on ↔ Picks strategy cs on := by
  rw [Locator.ofTrimmed, ← byRole?]
  constructor
  · rintro rfl
    rcases hrole : byRole? strategy cs with _ | ⟨r, n⟩
    · have hno := byRole?_eq_none_iff.1 hrole
      rcases htext : "text=".toList.isPrefixOf? cs with _ | quoted
      · refine .selector hno fun quoted h => ?_
        rw [List.isPrefixOf?_eq_some_iff_append_eq.2 h.symm] at htext
        cases htext
      · exact .text hno (List.isPrefixOf?_eq_some_iff_append_eq.1 htext).symm
          (stripQuotes_eq_iff.1 rfl)
    · obtain ⟨h, hexpression⟩ := byRole?_eq_some_iff.1 hrole
      exact .role h hexpression
  · intro h
    cases h with
    | role h hrole => rw [byRole?_eq_some_iff.2 ⟨h, hrole⟩]
    | text h htext ht =>
        rw [byRole?_eq_none_iff.2 h, List.isPrefixOf?_eq_some_iff_append_eq.2 htext.symm]
        exact congrArg Locator.text (stripQuotes_eq_iff.2 ht)
    | selector h hno =>
        rcases htext : "text=".toList.isPrefixOf? cs with _ | quoted
        · rw [byRole?_eq_none_iff.2 h]
        · exact absurd (List.isPrefixOf?_eq_some_iff_append_eq.1 htext).symm (hno quoted)

/-- **What a target picks** is read off it without the blanks at its ends. -/
theorem resolve_eq_iff {strategy : Strategy} {target : String} {on : Locator} :
    Locator.resolve strategy target = on ↔
      ∃ cs, Stripped Text.isBlank target.toList cs ∧ Picks strategy cs on := by
  rw [Locator.resolve, ofTrimmed_eq_iff]
  constructor
  · exact fun h => ⟨_, trim_eq_iff.1 rfl, h⟩
  · rintro ⟨cs, hcs, h⟩
    rw [trim_eq_iff.2 hcs]
    exact h

/-! ### Quoted spans -/

/-- The span is the **first** in the text **between two quotes** of one kind: no quote before it
is followed by another of its kind. -/
def FirstSpan (cs span : List Char) : Prop :=
  ∃ before q after, cs = before ++ q :: (span ++ q :: after) ∧ isQuote q = true ∧ q ∉ span ∧
    ∀ earlier c later, before = earlier ++ c :: later → isQuote c = true →
      c ∉ later ++ q :: (span ++ q :: after)

section

variable {c : Char} {span : List Char}

/-- A quote that comes again begins the first span, which goes up to where it comes again. -/
theorem firstSpan_cons_of_closed (hquote : isQuote c = true) (hmem : c ∈ cs) :
    FirstSpan (c :: cs) span ↔ ∃ after, cs = span ++ c :: after ∧ c ∉ span := by
  constructor
  · rintro ⟨before, q, after, h, -, hspan, hfirst⟩
    cases before with
    | nil =>
        cases h
        exact ⟨after, rfl, hspan⟩
    | cons _ before =>
        cases h
        exact absurd hmem (hfirst [] c before rfl hquote)
  · rintro ⟨after, rfl, hspan⟩
    refine ⟨[], c, after, rfl, hquote, hspan, ?_⟩
    rintro earlier _ later h
    cases earlier <;> cases h

/-- A character that is no quote, or a quote that does not come again, is passed over. -/
theorem firstSpan_cons_of_open (h : ¬ (isQuote c = true ∧ c ∈ cs)) :
    FirstSpan (c :: cs) span ↔ FirstSpan cs span := by
  constructor
  · rintro ⟨before, q, after, hcs, hquote, hspan, hfirst⟩
    cases before with
    | nil =>
        cases hcs
        exact absurd ⟨hquote, by simp⟩ h
    | cons _ before =>
        cases hcs
        refine ⟨before, q, after, rfl, hquote, hspan, fun earlier d later hbefore => ?_⟩
        exact hfirst (c :: earlier) d later (by rw [hbefore]; rfl)
  · rintro ⟨before, q, after, rfl, hquote, hspan, hfirst⟩
    refine ⟨c :: before, q, after, rfl, hquote, hspan, fun earlier d later hbefore hd => ?_⟩
    cases earlier with
    | nil =>
        cases hbefore
        exact fun hmem => h ⟨hd, hmem⟩
    | cons _ earlier =>
        cases hbefore
        exact hfirst earlier d later rfl hd

/-- A quote that is closed begins the span, which goes up to the next quote of its kind. -/
theorem quotedSpan?_cons_of_closed (hquote : isQuote c = true) (hmem : c ∈ cs) :
    quotedSpan? (c :: cs) = some span ↔ ∃ after, cs = span ++ c :: after ∧ c ∉ span := by
  rcases hcut : cs.span (· != c) with ⟨inner, rest⟩
  obtain ⟨rfl, hinner, hrest⟩ := span_eq_iff.1 hcut
  have hnot := all_bne_iff.1 hinner
  cases rest with
  | nil => simp [hnot] at hmem
  | cons d rest =>
      obtain rfl : d = c := by simpa using hrest d rfl
      have hread : quotedSpan? (d :: (inner ++ d :: rest)) = some inner := by
        rw [quotedSpan?, if_pos hquote, hcut]
      rw [hread]
      constructor
      · rintro ⟨⟩
        exact ⟨rest, rfl, hnot⟩
      · rintro ⟨after, h, hspan⟩
        have hcut' : (span ++ d :: after).span (· != d) = (span, d :: after) :=
          span_eq_iff.2 ⟨rfl, all_bne_iff.2 hspan, by rintro _ ⟨⟩; simp⟩
        rw [← h, hcut] at hcut'
        cases hcut'
        rfl

/-- What begins no span is passed over. -/
theorem quotedSpan?_cons_of_open (h : ¬ (isQuote c = true ∧ c ∈ cs)) :
    quotedSpan? (c :: cs) = quotedSpan? cs := by
  rw [quotedSpan?]
  split
  · next hquote =>
    have hcut : cs.span (· != c) = (cs, []) :=
      span_eq_iff.2 ⟨by simp, all_bne_iff.2 fun hmem => h ⟨hquote, hmem⟩, by simp⟩
    rw [hcut]
  · rfl

/-- **The quoted span that is read is the first one.** -/
theorem quotedSpan?_eq_some_iff : quotedSpan? cs = some span ↔ FirstSpan cs span := by
  induction cs with
  | nil =>
      constructor
      · rintro ⟨⟩
      · rintro ⟨before, q, after, h, -⟩
        cases before <;> cases h
  | cons c cs ih =>
      by_cases hc : isQuote c = true ∧ c ∈ cs
      · rw [quotedSpan?_cons_of_closed hc.1 hc.2, firstSpan_cons_of_closed hc.1 hc.2]
      · rw [quotedSpan?_cons_of_open hc, firstSpan_cons_of_open hc, ih]

end

end Scenarist.Spec
