import Mathlib.Data.List.Forall2
import Scenarist.Proofs.Repair.Run

/-!
# A Repair Loses Nothing

Whatever the backend does, a repair that ends gives back the scenarios it was given: in their
order, with their ids, names and tags, and with every step in its place. All that a repair may
change in a step is the target of an element and the text after the description; all that it
may change in a scenario, beside its steps, is the time it took.

The three levels on which a failure is absorbed have one reason in common. An outcome is built
from the very value it stands for: a kept step or scenario *is* that value, and an adopted step
is that value with a remark. So the relation between a value and its outcome (`StepOutcome`,
`ScenarioEntry`) is established where the outcome is built, and a run over a list is a
`List.Forall₂` of it, however the run went.

## Main results

* `step_outcome`: what one replayed step gives stands for that step.
* `scenarios_entries`: what a replay of scenarios gives stands for them, one for one.
* `within_preserves`: **nothing is lost** by a repair, and the reported number of improved steps
  is the number of places at which a target has changed.
-/

namespace Scenarist.Repair

variable {σ : Type} {b : Backend σ} {tools : Toolbox} {url : String} {pause : Nat}
variable {d : Option Nat} {w w' : World σ}

/-! ### What a repair may change -/

/-- What a repair may change in a step: the target of an element, and the text after the
description. -/
structure StepPreserved (before after : Step) : Prop where
  action : after.action = before.action
  data : after.data = before.data
  /-- A navigation and an action that is not recognized keep their target. -/
  target : before.action.targetsElement = false → after.target = before.target
  description : ∃ remark, after.description = before.description ++ remark

/-- What a repair may change in a scenario: its steps, each in its place, and the time. -/
structure ScenarioPreserved (before after : Scenario) : Prop where
  id : after.id = before.id
  name : after.name = before.name
  tags : after.tags = before.tags
  steps : List.Forall₂ StepPreserved before.steps after.steps

/-- The outcome stands for the step: it preserves it, and is the step itself if degraded. -/
structure StepOutcome (before : Step) (o : Outcome Step) : Prop where
  preserved : StepPreserved before o.value
  kept : o.isDegraded = true → o.value = before

/-- The number of places at which the target has changed. -/
def retargetedSteps (before after : List Step) : Nat :=
  (before.zip after).countP fun (s, t) => t.target != s.target

/-- The number of places, in any of the scenarios, at which the target has changed. -/
def retargeted (before after : List Scenario) : Nat :=
  ((before.zip after).map fun (s, t) => retargetedSteps s.steps t.steps).foldr (· + ·) 0

/-- The entry of a report stands for the scenario. -/
structure ScenarioEntry (before : Scenario) (r : ScenarioRepair) : Prop where
  preserved : ScenarioPreserved before r.scenario
  kept : r.outcome.isDegraded = true → r.scenario = before
  /-- A step that was kept is the step at its place. -/
  kept_step : ∀ (i : Nat) (o : Outcome Step), r.steps[i]? = some o → o.isDegraded = true →
    r.scenario.steps[i]? = before.steps[i]?
  improved : r.improved = retargetedSteps before.steps r.scenario.steps

/-! ### One step -/

/-- A step that is left alone is preserved. -/
theorem StepPreserved.refl (s : Step) : StepPreserved s s :=
  ⟨rfl, rfl, fun _ => rfl, "", (String.append_empty).symm⟩

/-- A step to which nothing was done stands for itself. -/
theorem StepOutcome.degraded (s : Step) (reason : String) : StepOutcome s (.degraded s reason) :=
  ⟨.refl s, fun _ => rfl⟩

/-- A remark preserves a step, also one on an element with a different target. -/
theorem StepOutcome.remarked {s t : Step} {remark : String} (haction : t.action = s.action)
    (hdata : t.data = s.data) (hdescription : t.description = s.description)
    (htarget : s.action.targetsElement = false → t.target = s.target) :
    StepOutcome s (.ok (remarked t remark)) where
  preserved :=
    { action := haction
      data := hdata
      target := htarget
      description := ⟨" [" ++ (remark ++ "]"), by
        simp only [Outcome.value, Repair.remarked, hdescription, String.append_assoc]⟩ }
  kept h := by simp [Outcome.isDegraded] at h

/-- What becomes of a step that goes to a page is an outcome of it. -/
theorem navigationOutcome_outcome (s : Step) (r : StepResult) :
    StepOutcome s (navigationOutcome s r) := by
  rw [navigationOutcome]
  split
  · exact .remarked rfl rfl rfl fun _ => rfl
  · exact .degraded s _

/-- What becomes of a step that waits for the page is an outcome of it. -/
theorem waitOutcome_outcome (s : Step) (r : StepResult) : StepOutcome s (waitOutcome s r) := by
  rw [waitOutcome]
  split
  · exact ⟨.refl s, fun h => by simp [Outcome.isDegraded] at h⟩
  · exact .degraded s _

/-- What becomes of a step on an element is an outcome of it. -/
theorem elementOutcome_outcome {s : Step} (hs : s.action.targetsElement = true) (v : Validation)
    (r : StepResult) : StepOutcome s (elementOutcome s v r) := by
  rw [elementOutcome]
  split
  · exact .degraded s _
  · split
    · exact .degraded s _
    · exact .remarked rfl rfl rfl fun h => by simp [hs] at h

/-- **What one replayed step gives stands for that step**, whatever the backend answers. -/
theorem step_outcome {index : Nat} {s : Step} {o : Outcome Step}
    (h : step b tools url index s d w = (.ok (.ok o), w')) : StepOutcome s o := by
  rcases rule_cases s with ⟨name, hs⟩ | hs | ⟨hs, hroot⟩ | hs
  · rw [step_other hs] at h
    obtain ⟨ho, -⟩ := Play.pure_eq_ok_iff.1 h
    cases ho
    exact .degraded s _
  · rw [step_goto hs] at h
    obtain ⟨r, -, rfl⟩ := executed_eq_ok h
    exact navigationOutcome_outcome s r
  · rw [step_root hs hroot] at h
    obtain ⟨r, -, rfl⟩ := executed_eq_ok h
    exact waitOutcome_outcome s r
  · rw [step_onElement hs] at h
    obtain ⟨v, r, -, -, -, rfl⟩ := elementStep_eq_ok h
    exact elementOutcome_outcome hs.1 v r

/-! ### The steps of a scenario -/

/-- What a replay of steps gives stands for them, one for one. -/
theorem steps_outcomes {all : List Step} {os : List (Outcome Step)} {index : Nat}
    (h : steps b tools url pause index all d w = (.ok (.ok os), w')) :
    List.Forall₂ StepOutcome all os := by
  induction all generalizing index os w with
  | nil =>
      obtain ⟨hos, -⟩ := Play.pure_eq_ok_iff.1 h
      cases hos
      exact .nil
  | cons s rest ih =>
      obtain ⟨t, o, os', u, hs, hrest, rfl, -⟩ := steps_cons_eq_ok h
      exact .cons (step_outcome hs) (ih hrest)

/-- Among outcomes that stand for their steps, those counted as improved are those with a new
target: a degraded one has the target of its step. -/
theorem improved_eq_retargetedSteps {all : List Step} {os : List (Outcome Step)}
    (h : List.Forall₂ StepOutcome all os) :
    ((all.zip os).filter fun (s, o) => ScenarioRepair.isImproved s o).length =
      retargetedSteps all (os.map (·.value)) := by
  induction h with
  | nil => rfl
  | @cons s o rest os' ho _ ih =>
      have hsame : ScenarioRepair.isImproved s o = (o.value.target != s.target) := by
        cases o with
        | ok t => rfl
        | degraded t reason =>
            have ht : t = s := ho.kept rfl
            simp [ScenarioRepair.isImproved, Outcome.isOk, Outcome.value, ht]
      simp only [retargetedSteps, List.map_cons, List.zip_cons_cons, List.filter_cons,
        List.countP_cons, hsame] at ih ⊢
      split <;> simp [ih]

/-- What stands at a place of the second list is related to what stands there in the first. -/
theorem exists_getElem?_of_forall₂ {α β : Type} {R : α → β → Prop} {xs : List α} {ys : List β}
    (h : List.Forall₂ R xs ys) {i : Nat} {y : β} (hy : ys[i]? = some y) :
    ∃ x, xs[i]? = some x ∧ R x y := by
  induction h generalizing i with
  | nil => simp at hy
  | cons hr _ ih =>
      cases i with
      | zero =>
          obtain rfl : _ = y := by simpa using hy
          exact ⟨_, rfl, hr⟩
      | succ i => simpa using ih (by simpa using hy)

/-! ### Scenarios -/

/-- The entry of a scenario that was replayed to its last step stands for it. -/
theorem replayed_entry {s : Scenario} {os : List (Outcome Step)}
    (h : List.Forall₂ StepOutcome s.steps os) (elapsed : Nat) :
    ScenarioEntry s (.replayed s os elapsed) where
  preserved :=
    { id := rfl
      name := rfl
      tags := rfl
      steps := by
        refine List.forall₂_map_right_iff.2 ?_
        exact h.imp fun _ _ ho => ho.preserved }
  kept hd := by simp [ScenarioRepair.replayed, Outcome.isDegraded] at hd
  kept_step i o hi hd := by
    change os[i]? = some o at hi
    obtain ⟨t, ht, ho⟩ := exists_getElem?_of_forall₂ h hi
    change (os.map (·.value))[i]? = _
    rw [List.getElem?_map, hi, ht, Option.map_some, ho.kept hd]
  improved := improved_eq_retargetedSteps h

@[simp] theorem retargetedSteps_self (all : List Step) : retargetedSteps all all = 0 := by
  induction all with
  | nil => rfl
  | cons s rest ih =>
      simp only [retargetedSteps, List.zip_cons_cons, List.countP_cons, bne_self_eq_false] at ih ⊢
      simpa using ih

/-- The entry of a scenario that was given up stands for it. -/
theorem kept_entry (s : Scenario) (reason : String) (elapsed : Nat) :
    ScenarioEntry s (.kept s reason elapsed) where
  preserved := ⟨rfl, rfl, rfl, List.forall₂_same.2 fun t _ => .refl t⟩
  kept _ := rfl
  kept_step _ _ _ _ := rfl
  improved := (retargetedSteps_self s.steps).symm

/-- **What a replay of scenarios gives stands for them**, one for one. -/
theorem scenarios_entries {all : List Scenario} {rs : List ScenarioRepair}
    (h : scenarios b tools url pause all d w = (.ok rs, w')) :
    List.Forall₂ ScenarioEntry all rs := by
  induction all generalizing rs w with
  | nil =>
      obtain ⟨rfl, -⟩ := Play.pure_eq_ok_iff.1 h
      exact .nil
  | cons s rest ih =>
      obtain ⟨r, rs', u, hr, hrs, rfl, -⟩ := scenarios_cons_eq_ok h
      refine .cons ?_ (ih hrs)
      rcases scenario_eq_ok hr with ⟨os, elapsed, hos, rfl⟩ | ⟨reason, elapsed, rfl⟩
      · exact replayed_entry (steps_outcomes hos) elapsed
      · exact kept_entry s reason elapsed

/-- Scenarios that were all given up are kept one for one. -/
theorem kept_entries (all : List Scenario) (reason : String) (elapsed : Nat) :
    List.Forall₂ ScenarioEntry all (all.map (.kept · reason elapsed)) :=
  List.forall₂_map_right_iff.2 (List.forall₂_same.2 fun s _ => kept_entry s reason elapsed)

/-! ### Repairs -/

/-- **A repair without a limit reports on each scenario**, in order. -/
theorem unlimited_entries {all : List Scenario} {report : RepairReport}
    (h : unlimited b tools pause url all d w = (.ok report, w')) :
    List.Forall₂ ScenarioEntry all report.entries := by
  rcases unlimited_eq_ok h with ⟨_, _, entries, -, hs, -, rfl⟩ | ⟨_, reason, -, rfl⟩
  · exact scenarios_entries hs
  · exact kept_entries all reason 0

/-- **A repair with a limit reports on each scenario**, in order, also where it is cut. -/
theorem within_entries {all : List Scenario} {limit : Option Nat} {report : RepairReport}
    (h : within b tools pause url all limit d w = (.ok report, w')) :
    List.Forall₂ ScenarioEntry all report.entries := by
  rcases within_eq_ok h with h | ⟨ms, -, rfl⟩
  · exact unlimited_entries h
  · exact kept_entries all _ ms

/-- The improved steps that entries count are the places at which a target has changed. -/
theorem sum_improved_eq_retargeted {all : List Scenario} {entries : List ScenarioRepair}
    (h : List.Forall₂ ScenarioEntry all entries) :
    (entries.map (·.improved)).foldr (· + ·) 0 = retargeted all (entries.map (·.scenario)) := by
  rw [retargeted]
  induction h with
  | nil => rfl
  | cons hr _ ih =>
      simp only [List.map_cons, List.foldr_cons, List.zip_cons_cons, ih, hr.improved]

/-- **Nothing is lost by a repair.** Whatever state the session was in and however the backend
behaved, a repair that ends has one entry for each scenario, in order: the scenario that goes on
has the id, the name, the tags and the steps of the one that was given, each step in its place
with its action and data; a scenario or step that was kept is unchanged. The number of improved
steps is the number of places at which a target has changed. -/
theorem within_preserves {all : List Scenario} {limit : Option Nat} {report : RepairReport}
    (h : within b tools pause url all limit d w = (.ok report, w')) :
    List.Forall₂ ScenarioPreserved all report.scenarios ∧
      List.Forall₂ ScenarioEntry all report.entries ∧
      report.improvedSteps = retargeted all report.scenarios := by
  have hentries := within_entries h
  refine ⟨?_, hentries, sum_improved_eq_retargeted hentries⟩
  refine List.forall₂_map_right_iff.2 ?_
  exact hentries.imp fun _ _ hr => hr.preserved

/-- The sample run improves one step, keeps two more as they were, and gives up one scenario. -/
theorem within_preserves_sample :
    ∃ report, sampleRun = (.ok report, sampleRun.2) ∧
      (report.improvedSteps, report.degradedSteps, report.degradedScenarios) = (1, 2, 1) ∧
      List.Forall₂ ScenarioPreserved [signIn, search] report.scenarios ∧
      List.Forall₂ ScenarioEntry [signIn, search] report.entries ∧
      report.improvedSteps = retargeted [signIn, search] report.scenarios := by
  obtain ⟨report, hrun, hcounts⟩ := exists_sampleReport
    (f := fun r => (r.improvedSteps, r.degradedSteps, r.degradedScenarios)) (v := (1, 2, 1))
    (by decide +kernel)
  exact ⟨report, hrun, hcounts, within_preserves hrun⟩

end Scenarist.Repair
