import Scenarist.Proofs.Session.Rendering
import Scenarist.Proofs.Spec.Strategy

/-!
# Targets That Name a Text

A target `text=` and a text is read in two places. The scripts that check a target on the live page
look for an element with this text in it, taken as it is (`searchedText?`). The test of a spec file
picks an element by it, and there the quotes at its ends are left out, one after another and
whether or not they belong together. So the two mean the same text if it has no quote at either
end, and only then: in `text='Tis the season` the apostrophe belongs to the text, and the test does
without it.

## Main results

* `TextTarget.resolve`: a text target picks by text in both strategies.
* `render_script`: what becomes of the target in a script for the page.
* `textTarget_means_iff`: **when a test and a script mean the same text**.
-/

namespace Scenarist

namespace Spec

variable {p : Char → Bool} {cs t : List Char} {target : String}

/-! ### The ends of a text -/

theorem stripped_self_iff : Stripped p cs cs ↔
    (∀ c, cs.head? = some c → p c = false) ∧ ∀ c, cs.getLast? = some c → p c = false := by
  constructor
  · exact fun h => ⟨h.first, h.last⟩
  · rintro ⟨hfirst, hlast⟩
    exact ⟨⟨[], [], by simp, rfl, rfl⟩, hfirst, hlast⟩

/-- There is a quote at an end of the text. -/
def QuotedAtEnd (t : List Char) : Prop :=
  ∃ c, isQuote c = true ∧ (t.head? = some c ∨ t.getLast? = some c)

/-- **Quotes at the ends are all that is stripped.** -/
theorem stripQuotes_eq_self_iff : stripQuotes t = t ↔ ¬ QuotedAtEnd t := by
  rw [stripQuotes_eq_iff, stripped_self_iff, QuotedAtEnd]
  constructor
  · rintro ⟨hfirst, hlast⟩ ⟨c, hquote, hc | hc⟩
    · exact absurd (hfirst c hc) (by simp [hquote])
    · exact absurd (hlast c hc) (by simp [hquote])
  · intro h
    refine ⟨fun c hc => ?_, fun c hc => ?_⟩
    · exact Bool.eq_false_iff.2 fun hquote => h ⟨c, hquote, .inl hc⟩
    · exact Bool.eq_false_iff.2 fun hquote => h ⟨c, hquote, .inr hc⟩

/-! ### Text targets -/

/-- The target **names the text**, which has no blanks at its ends. -/
structure TextTarget (target : String) (t : List Char) : Prop where
  target_eq : target.toList = "text=".toList ++ t
  trim_eq : Text.trim t = t

/-- **A text target picks by text** in both strategies. -/
theorem TextTarget.resolve (h : TextTarget target t) (strategy : Strategy) :
    Locator.resolve strategy target = .text (stripQuotes t) := by
  have hstripped : Stripped Text.isBlank target.toList target.toList := by
    rw [stripped_self_iff, h.target_eq]
    refine ⟨by rintro _ ⟨⟩; rfl, fun c hc => ?_⟩
    rw [List.getLast?_append] at hc
    cases hlast : t.getLast? with
    | none =>
        rw [hlast] at hc
        cases hc
        rfl
    | some d =>
        rw [hlast] at hc
        cases hc
        exact (trim_eq_iff.1 h.trim_eq).last c hlast
  have hrole : strategy = .roleFirst → ∀ r n, ¬ RoleExpression target.toList r n := by
    rintro - r n ⟨letters, q, hcs, -⟩
    rw [h.target_eq] at hcs
    cases hcs
  exact resolve_eq_iff.2 ⟨_, hstripped, .text hrole h.target_eq (stripQuotes_eq_iff.1 rfl)⟩

/-! ### What is done with an element -/

/-- The expression **acts on the element**: it calls a method of it, or expects something of it. -/
inductive ActsOn (element : Expr) : Expr → Prop where
  | method (name : String) (arguments : List Expr) :
      ActsOn element (element.invoke name arguments)
  | expectation (name : String) (arguments : List Expr) :
      ActsOn element ((Expr.call (.name "expect".toList) [element]).invoke name arguments)

/-- A step that picks an element acts on what its target picks. -/
theorem actsOn_prescribed {strategy : Strategy} {s : Step} (haction : s.action ∈ locating)
    (htarget : Locator.resolve strategy s.target = .text t) :
    ActsOn (page.invoke "getByText" [.literal t]) (prescribed strategy s) := by
  simp only [prescribed, htarget]
  cases h : s.action with
  | expect =>
      cases assertedText? (s.data.getD "").toList with
      | none => exact .expectation _ _
      | some text => exact .expectation _ _
  | click | fill | type | select | hover => exact .method _ _
  | goto | wait | other =>
      rw [h] at haction
      simp [locating] at haction

end Spec

/-! ### What a script looks for -/

namespace Template

/-- The code of a script before the literal of the target. -/
def scriptOpening : String := "async () => \x7b " ++ "const sel = "

/-- The code behind the literal, which looks for an element. -/
def scriptLookup : String :=
  "; " ++ "let el = null; " ++
  "try \x7b el = sel.startsWith('text=') " ++
  "? Array.from(document.querySelectorAll('body *')).find(e => e.children.length === 0 && " ++
  "(e.textContent || '').includes(sel.slice(5))) || null " ++
  ": document.querySelector(sel); \x7d " ++
  "catch (e) \x7b return \x7b success: false, error: String(e) \x7d; \x7d"

/-- What a script looks for in the texts of the page: what is behind `text=` in the target, if that
is how the target begins. -/
def searchedText? (target : String) : Option (List Char) := "text=".toList.isPrefixOf? target.toList

/-- Text without tokens is cut into its characters, and nothing is put in for them. -/
theorem flatMap_value_plain (target : String) (data : Option String) (cs : List Char) :
    (cs.map Piece.plain).flatMap (Piece.value target data) = cs := by
  rw [List.flatMap_map]
  exact List.flatMap_singleton' cs

/-- The part of a script has no token in it, and none begins at its end. -/
def IsPlain (s : String) : Prop := IsCut s.toList (s.toList.map .plain) ∧ EndsApart s.toList

theorem IsPlain.append {a b : String} (ha : IsPlain a) (hb : IsPlain b) : IsPlain (a ++ b) := by
  rw [IsPlain, String.toList_append, List.map_append]
  exact ⟨ha.1.append hb.1 ha.2, ha.2.append hb.2⟩

/-- A part that is given by its characters is plain if no token is found in it. -/
theorem isPlain_ofList {cs : List Char}
    (h : piecesFrom cs.length cs = cs.map .plain ∧ isApart cs = true) :
    IsPlain (String.ofList cs) := by
  rw [IsPlain, String.toList_ofList]
  exact ⟨h.1 ▸ isCut_piecesFrom le_rfl, endsApart_of_isApart h.2⟩

theorem isPlain_scriptOpening : IsPlain scriptOpening :=
  .append (isPlain_ofList (by decide)) (isPlain_ofList (by decide))

theorem isPlain_scriptLookup : IsPlain scriptLookup := by
  iterate 6 refine .append ?_ ?_
  all_goals exact isPlain_ofList (by decide)

/-- Every script begins in the same way. -/
theorem toList_findElement : ("async () => \x7b " ++ Toolbox.findElement).toList =
    scriptOpening.toList ++ (Token.targetLiteral.written ++ scriptLookup.toList) := by
  have hparts {a b c d e f g h i sel : String} {w : List Char}
      (hsel : sel.toList = b.toList ++ (w ++ c.toList)) :
      (a ++ (sel ++ d ++ e ++ f ++ g ++ h ++ i)).toList =
        (a ++ b).toList ++ (w ++ (c ++ d ++ e ++ f ++ g ++ h ++ i).toList) := by
    simp only [String.toList_append, hsel, List.append_assoc]
  exact hparts rfl

/-- The cut of a script, up to the part that only this script has. -/
theorem isCut_script (body : String) : ∃ ps, IsCut
    ("async () => \x7b " ++ Toolbox.findElement ++ " " ++ body ++ " \x7d").toList
    (scriptOpening.toList.map .plain ++
      (.token .targetLiteral :: (scriptLookup.toList.map .plain ++ ps))) := by
  have hrest : IsCut (" " ++ body ++ " \x7d").toList (pieces (" " ++ body ++ " \x7d")) :=
    isCut_iff.2 rfl
  have hlookup := (isPlain_scriptLookup.1.append hrest isPlain_scriptLookup.2).token .targetLiteral
  have hcut := isPlain_scriptOpening.1.append hlookup isPlain_scriptOpening.2
  have hscript :
      ("async () => \x7b " ++ Toolbox.findElement ++ " " ++ body ++ " \x7d").toList =
        scriptOpening.toList ++ (Token.targetLiteral.written ++
          (scriptLookup.toList ++ (" " ++ body ++ " \x7d").toList)) := by
    rw [String.toList_append, String.toList_append, String.toList_append, toList_findElement,
      String.toList_append, String.toList_append]
    simp only [List.append_assoc]
  rw [hscript]
  exact ⟨_, hcut⟩

/-- **What becomes of the target in a script for the page**: its literal stands for `sel`. -/
theorem render_script (target : String) (data : Option String) (body : String) :
    ∃ rest, render target data (Toolbox.script body).arguments =
      .object [("function", .string (String.ofList (scriptOpening.toList ++
        (Json.literal target ++ (scriptLookup.toList ++ rest)))))] := by
  obtain ⟨ps, hcut⟩ := isCut_script body
  refine ⟨ps.flatMap (Piece.value target data), ?_⟩
  have hmark : "async () => \x7b " ++ Toolbox.findElement ++ " " ++ body ++ " \x7d" ≠
      valuesMark := by
    refine ne_valuesMark ?_
    iterate 4 refine head?_toList_append ?_
    decide +kernel
  simp only [Toolbox.script, render, renderMembers, if_neg hmark, fill, isCut_iff.1 hcut]
  simp only [List.flatMap_append, List.flatMap_cons, flatMap_value_plain]
  rfl

end Template

namespace Spec

variable {t : List Char}

/-- **When a test and a script mean the same text.** Let a step that picks an element have a target
that names a text. The test of its spec file acts there on the element with a text that is given by
a literal, and the script that checks the target on the page looks for an element with a text that
is behind `text=` in the value of another literal. That text is the one of the target. The text in
the test is the same exactly if there is no quote at an end of it; otherwise it goes without the
quotes there. -/
theorem textTarget_means_iff {o : SpecOptions} {s : Scenario} {i : Nat} {step : Step}
    (hstep : s.steps[i]? = some step) (haction : step.action ∈ locating)
    (htarget : TextTarget step.target t) :
    (∃ before, (compile o s).toList = before ++ testText o.strategy s) ∧
    (∃ test e picked, readTestText? (testText o.strategy s) = some test ∧
      test.awaited[i]? = some e ∧ ActsOn (page.invoke "getByText" [.literal picked]) e ∧
      Stripped isQuote t picked ∧ (picked = t ↔ ¬ QuotedAtEnd t)) ∧
    ∃ literal rest, Template.render step.target none Toolbox.scripted.validateSelector.arguments =
        .object [("function", .string (String.ofList (Template.scriptOpening.toList ++
          (literal ++ (Template.scriptLookup.toList ++ rest)))))] ∧
      Template.IsLiteral literal step.target ∧ Template.searchedText? step.target = some t := by
  refine ⟨compile_eq_append_testText o s, ?_, ?_⟩
  · exact ⟨_, prescribed o.strategy step, stripQuotes t, readTestText?_testText o.strategy s,
      by rw [List.getElem?_map, hstep]; rfl, actsOn_prescribed haction (htarget.resolve _),
      stripQuotes_eq_iff.1 rfl, stripQuotes_eq_self_iff⟩
  · obtain ⟨rest, hrender⟩ := Template.render_script step.target none _
    exact ⟨_, rest, hrender, Template.isLiteral_literal _,
      List.isPrefixOf?_eq_some_iff_append_eq.2 htarget.target_eq.symm⟩

/-- A scenario with a text target that begins with an apostrophe. -/
def seasonal : Scenario :=
  ⟨"s1", "Menu", [⟨.click, "text='Tis the season", none, "Open the menu"⟩], .empty, none⟩

/-- The apostrophe belongs to the text that a script looks for, and the test does without it. -/
theorem textTarget_means_iff_seasonal :
    QuotedAtEnd "'Tis the season".toList ∧
    Template.searchedText? "text='Tis the season" = some "'Tis the season".toList ∧
    ∃ test e, readTestText? (testText .roleFirst seasonal) = some test ∧
      test.awaited[0]? = some e ∧
      ActsOn (page.invoke "getByText" [.literal "Tis the season".toList]) e := by
  have htarget : TextTarget "text='Tis the season" "'Tis the season".toList :=
    ⟨by decide +kernel, by decide +kernel⟩
  obtain ⟨-, ⟨test, e, picked, htest, he, hacts, hpicked, -⟩, -, -, -, -, hsearched⟩ :=
    textTarget_means_iff (o := .default) (s := seasonal) (i := 0) rfl (by decide) htarget
  have hstripped : stripQuotes "'Tis the season".toList = "Tis the season".toList := by
    decide +kernel
  obtain rfl : "Tis the season".toList = picked :=
    hstripped.symm.trans (stripQuotes_eq_iff.2 hpicked)
  exact ⟨⟨'\'', rfl, .inl (by decide +kernel)⟩, hsearched, test, e, htest, he, hacts⟩

end Spec

end Scenarist
