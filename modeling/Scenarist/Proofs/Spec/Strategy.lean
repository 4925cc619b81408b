import Scenarist.Proofs.Spec.Denotation

/-!
# What the Strategy Decides

The strategy of a spec file has an influence on one thing only: whether a role expression is read
as one. The targets that it matters to are the role targets (`RoleTarget`) of the steps that pick
an element with a locator (`locating`). Without such a step the files of both strategies are the
same; with one they are not, since the calls that they are read as differ there.

## Main results

* `resolve_eq_role_iff`: the targets that pick by role are the role targets.
* `resolve_roleFirst_eq_css`: all other targets pick the same in both strategies.
* `prescribed_ne`: a role target makes a difference to what its step prescribes.
* `compile_strategy_iff`: **files differ in their strategy only through role targets**.
-/

namespace Scenarist.Spec

variable {target : String} {r n : List Char} {on : Locator}

/-! ### Role targets -/

/-- The target is a **role target**: what is left of it without the blanks at its ends is a role
expression. -/
def RoleTarget (target : String) (role name : List Char) : Prop :=
  ∃ cs, Stripped Text.isBlank target.toList cs ∧ RoleExpression cs role name

/-- **A target picks by role** if role expressions are read and it is one. -/
theorem resolve_eq_role_iff {strategy : Strategy} :
    Locator.resolve strategy target = .role r n ↔
      strategy = .roleFirst ∧ RoleTarget target r n := by
  rw [resolve_eq_iff]
  constructor
  · rintro ⟨cs, hcs, hpicks⟩
    cases hpicks with
    | role hstrategy hrole => exact ⟨hstrategy, cs, hcs, hrole⟩
  · rintro ⟨hstrategy, cs, hcs, hrole⟩
    exact ⟨cs, hcs, .role hstrategy hrole⟩

theorem resolve_css_ne_role : Locator.resolve .css target ≠ .role r n := by
  intro h
  cases (resolve_eq_role_iff.1 h).1

/-- **A target that is no role target picks the same in both strategies.** -/
theorem resolve_roleFirst_eq_css (h : ∀ r n, ¬ RoleTarget target r n) :
    Locator.resolve .roleFirst target = Locator.resolve .css target := by
  generalize hon : Locator.resolve .css target = on
  obtain ⟨cs, hcs, hpicks⟩ := resolve_eq_iff.1 hon
  have hno : Strategy.roleFirst = .roleFirst → ∀ r n, ¬ RoleExpression cs r n :=
    fun _ r n hrole => h r n ⟨cs, hcs, hrole⟩
  refine resolve_eq_iff.2 ⟨cs, hcs, ?_⟩
  cases hpicks with
  | role hstrategy => cases hstrategy
  | text _ htext ht => exact .text hno htext ht
  | selector _ htext => exact .selector hno htext

/-! ### Steps without role targets -/

/-- The actions that pick an element with a locator. -/
def locating : List Action := [.click, .fill, .type, .expect, .select, .hover]

/-- The strategy matters to a step through what its target picks, if it picks anything. -/
theorem ofStep_eq_of_resolve {s : Step}
    (h : s.action ∈ locating →
      Locator.resolve .roleFirst s.target = Locator.resolve .css s.target) :
    Statement.ofStep .roleFirst s = Statement.ofStep .css s := by
  by_cases hlocating : s.action ∈ locating
  · rw [Statement.ofStep, Statement.ofStep, h hlocating]
  · rw [Statement.ofStep, Statement.ofStep]
    cases haction : s.action with
    | goto | wait | other => rfl
    | _ =>
        rw [haction] at hlocating
        exact absurd (by decide) hlocating

theorem stepsLines_eq_of_ofStep {number : Nat} {steps : List Step}
    (h : ∀ s ∈ steps, Statement.ofStep .roleFirst s = Statement.ofStep .css s) :
    stepsLines .roleFirst number steps = stepsLines .css number steps := by
  induction steps generalizing number with
  | nil => rfl
  | cons s rest ih =>
      rw [stepsLines, stepsLines, stepLines, stepLines, h s List.mem_cons_self,
        ih fun s hs => h s (List.mem_cons_of_mem _ hs)]

/-! ### Steps with role targets -/

/-- No locator is the page itself. -/
theorem expr_ne_page (on : Locator) : on.expr ≠ page := by
  cases on <;> exact fun h => by cases h

/-- A locator by role is not written like another one. -/
theorem expr_role_ne (h : ∀ r n, on ≠ .role r n) : (Locator.role r n).expr ≠ on.expr := by
  intro heq
  cases on with
  | role r' n' => exact h r' n' rfl
  | text t =>
      obtain ⟨hmember, -⟩ := Expr.call.inj heq
      obtain ⟨-, hmethod⟩ := Expr.member.inj hmember
      exact absurd hmethod (by decide)
  | selector s =>
      obtain ⟨hmember, -⟩ := Expr.call.inj heq
      obtain ⟨-, hmethod⟩ := Expr.member.inj hmember
      exact absurd hmethod (by decide)

/-- Nor are the methods that are called on it. -/
theorem invoke_role_ne (h : ∀ r n, on ≠ .role r n) (method : String) (arguments : List Expr) :
    (Locator.role r n).invoke method arguments ≠ on.invoke method arguments := by
  intro heq
  cases on with
  | role r' n' => exact h r' n' rfl
  | text t =>
      obtain ⟨hmember, -⟩ := Expr.call.inj heq
      exact expr_role_ne h (Expr.member.inj hmember).1
  | selector s =>
      obtain ⟨hmember, -⟩ := Expr.call.inj heq
      exact expr_ne_page (.role r n) (Expr.member.inj hmember).1

/-- Nor is what is expected of it. -/
theorem expectation_role_ne (h : ∀ r n, on ≠ .role r n) (text : Option (List Char)) :
    (Locator.role r n).expectation text ≠ on.expectation text := by
  intro heq
  have hsubject : Expr.call (.name "expect".toList) [(Locator.role r n).expr] =
      Expr.call (.name "expect".toList) [on.expr] := by
    cases text with
    | none => exact (Expr.member.inj (Expr.call.inj heq).1).1
    | some text => exact (Expr.member.inj (Expr.call.inj heq).1).1
  obtain ⟨-, hon⟩ := Expr.call.inj hsubject
  exact expr_role_ne h (List.cons.inj hon).1

/-- **A role target makes a difference** to what its step prescribes. -/
theorem prescribed_ne {s : Step} (haction : s.action ∈ locating)
    (hrole : RoleTarget s.target r n) : prescribed .roleFirst s ≠ prescribed .css s := by
  have hcss : ∀ r n, Locator.resolve .css s.target ≠ .role r n := fun _ _ => resolve_css_ne_role
  simp only [prescribed, resolve_eq_role_iff.2 ⟨rfl, hrole⟩]
  cases h : s.action with
  | expect => exact expectation_role_ne hcss _
  | click | fill | type | select | hover => exact invoke_role_ne hcss _ _
  | goto | wait | other =>
      rw [h] at haction
      simp [locating] at haction

/-! ### Files -/

/-- What stands before the test of a file does not depend on the strategy. -/
theorem exists_before_testText (l : Language) (s : Scenario) : ∃ before, ∀ strategy,
    (compile ⟨strategy, l⟩ s).toList = before ++ testText strategy s := by
  refine ⟨(header l :: [] :: if s.tags.isEmpty then [] else [tagLine s.tags]).flatMap
    fun line => line ++ ['\n'], fun strategy => ?_⟩
  rw [compile, String.toList_ofList, lines, List.flatMap_append]
  rfl

/-- Files that are equal are read as the same calls. -/
theorem prescribed_eq_of_compile_eq {l : Language} {s : Scenario}
    (h : compile ⟨.roleFirst, l⟩ s = compile ⟨.css, l⟩ s) :
    ∀ step ∈ s.steps, prescribed .roleFirst step = prescribed .css step := by
  obtain ⟨before, hbefore⟩ := exists_before_testText l s
  have htext : testText .roleFirst s = testText .css s := by
    have hfiles := congrArg String.toList h
    rw [hbefore, hbefore] at hfiles
    exact List.append_cancel_left hfiles
  have hread := readTestText?_testText .roleFirst s
  rw [htext, readTestText?_testText] at hread
  have hcalls : s.steps.map (prescribed .css) = s.steps.map (prescribed .roleFirst) :=
    (Test.mk.inj (Option.some.inj hread)).2
  exact fun step hstep => (List.map_inj_left.1 hcalls step hstep).symm

/-- **Files differ in their strategy only through role targets.** A target picks by role exactly if
it is a role target, with the role and the name that are written in it; and the files of a scenario
in both strategies are equal exactly if no step that picks an element has such a target. -/
theorem compile_strategy_iff :
    (∀ target r n, Locator.resolve .roleFirst target = .role r n ↔ RoleTarget target r n) ∧
    ∀ (l : Language) (s : Scenario), compile ⟨.roleFirst, l⟩ s = compile ⟨.css, l⟩ s ↔
      ∀ step ∈ s.steps, step.action ∈ locating → ∀ r n, ¬ RoleTarget step.target r n := by
  refine ⟨fun target r n => ?_, fun l s => ⟨?_, ?_⟩⟩
  · rw [resolve_eq_role_iff]
    exact and_iff_right rfl
  · intro h step hstep haction r n hrole
    exact prescribed_ne haction hrole (prescribed_eq_of_compile_eq h step hstep)
  · intro h
    have hsteps : ∀ step ∈ s.steps,
        Statement.ofStep .roleFirst step = Statement.ofStep .css step := fun step hstep =>
      ofStep_eq_of_resolve fun haction => resolve_roleFirst_eq_css (h step hstep haction)
    rw [compile, compile, lines, lines, testLines, testLines, stepsLines_eq_of_ofStep hsteps]

end Scenarist.Spec
