import Scenarist.Proofs.Run.Course

/-!
# What a Run Leaves Behind Is Consistent

A run fails only as the text service fails. Whatever it gets from the text service and however the
backend behaves, as long as the repair returns, what it leaves behind fits together. The first
snapshot holds the scenarios of the reply, and the second one the scenarios that stand for them in
their places; both belong to the run by their ids; there is one spec file for each scenario of the
second snapshot; and the counts of both snapshots are those of the data they come with.

The counts of the second snapshot are taken over from the report, which has counted them entry by
entry while the scenarios were replayed. That they are true of the snapshots is a consequence of
what an entry stands for (`Repair.ScenarioEntry`), and of nothing that the backend did.

## Main results

* `Snapshot.captures_capture`: a snapshot is traced back to its run, whatever the id of the run.
* `output_consistent`: what is made of a reply and a report that stands for it is consistent.
* `run_consistent`: **a run fails only as the text service does, and is consistent otherwise**.
-/

namespace Scenarist

/-! ### Snapshots -/

namespace Snapshot

/-- What comes before in a list is stripped off it. -/
theorem isPrefixOf?_append {α : Type} [BEq α] [LawfulBEq α] (l r : List α) :
    l.isPrefixOf? (l ++ r) = some r := by
  induction l with
  | nil => rfl
  | cons a l ih => simp [List.isPrefixOf?, ih]

/-- An ending is dropped from the text it was put to. -/
theorem dropEnding?_append (s ending : String) : dropEnding? (s ++ ending) ending = some s := by
  rw [dropEnding?, String.toList_append, List.reverse_append, isPrefixOf?_append]
  simp

/-- A snapshot that belongs to the run and counts what it holds. -/
structure Captures (base : String) (x : Snapshot) : Prop where
  runId : x.runId = base ++ "-" ++ x.metadata.source.suffix
  baseRunId : x.baseRunId = base
  scenarioCount : x.metadata.scenarioCount = x.scenarios.length
  stepCount : x.metadata.stepCount = (x.scenarios.flatMap (·.steps)).length

theorem countSteps_eq (scenarios : List Scenario) :
    countSteps scenarios = (scenarios.flatMap (·.steps)).length := by
  induction scenarios with
  | nil => rfl
  | cons s rest ih =>
      rw [countSteps] at ih ⊢
      rw [List.map_cons, List.foldr_cons, ih, List.flatMap_cons, List.length_append]

/-- **A snapshot is traced back to its run**, also if the id of the run itself ends like the id of
a snapshot. -/
theorem captures_capture (runId : String) (scenarios : List Scenario) (m : Metadata) :
    Captures runId (capture runId scenarios m) where
  runId := rfl
  baseRunId := by
    rw [baseRunId, capture, dropEnding?_append, Option.bind_some, dropEnding?_append]
    rfl
  scenarioCount := rfl
  stepCount := countSteps_eq scenarios

end Snapshot

/-! ### What a run leaves behind -/

/-- The scenario stands in the place of another one, and has the same outline. -/
structure SameOutline (before after : Scenario) : Prop where
  id : after.id = before.id
  name : after.name = before.name
  tags : after.tags = before.tags
  stepCount : after.steps.length = before.steps.length

/-- The file is the spec file of the scenario, whatever its name. -/
structure SpecFile.IsOf (o : SpecOptions) (s : Scenario) (f : SpecFile) : Prop where
  scenarioId : f.scenarioId = s.id
  source : f.source = Spec.compile o s

/-- What became of the scenarios in the repair; nothing if it was skipped. -/
def RunOutput.entries (o : RunOutput) : List ScenarioRepair :=
  (o.report.map (·.entries)).getD []

/-- What a run leaves behind is **consistent** with the scenarios of the reply and with itself. -/
structure RunOutput.Consistent (p : Pipeline) (base : String) (scenarios : List Scenario)
    (o : RunOutput) : Prop where
  runId : o.runId = base
  generated : o.before.scenarios = scenarios
  /-- Both snapshots belong to the run, and count what they hold. -/
  before : o.before.Captures base
  after : o.after.Captures base
  beforeId : o.before.runId = base ++ "-gemini"
  afterId : o.after.runId = base ++ "-mcp"
  /-- The scenarios after the repair stand for those before it, in order. -/
  same : List.Forall₂ SameOutline o.before.scenarios o.after.scenarios
  /-- There is one file for each scenario after the repair, in order. -/
  files : List.Forall₂ (SpecFile.IsOf p.spec) o.after.scenarios o.files
  compiledFiles : o.after.metadata.compiledFiles = o.files.length
  /-- The counts of the second snapshot are those of the data. -/
  improvedSteps : o.after.metadata.improvedSteps =
    Repair.retargeted o.before.scenarios o.after.scenarios
  degradedSteps : o.after.metadata.degradedSteps =
    (o.entries.flatMap (·.steps)).countP (·.isDegraded)
  degradedScenarios : o.after.metadata.degradedScenarios =
    o.entries.countP (·.outcome.isDegraded)
  succeeded : o.after.metadata.validationSucceeded = o.report.any (·.validationSucceeded)

namespace Repair

/-- What a repair preserves is the outline, among others. -/
theorem ScenarioPreserved.sameOutline {s t : Scenario} (h : ScenarioPreserved s t) :
    SameOutline s t :=
  ⟨h.id, h.name, h.tags, h.steps.length_eq.symm⟩

/-- No target has changed between scenarios and themselves. -/
theorem retargeted_self (all : List Scenario) : retargeted all all = 0 := by
  rw [retargeted]
  induction all with
  | nil => rfl
  | cons s rest ih =>
      rw [List.zip_cons_cons, List.map_cons, List.foldr_cons, ih]
      simp

/-- The steps that a report counts as kept are those among all its outcomes of steps. -/
theorem degradedSteps_eq_countP (report : RepairReport) :
    report.degradedSteps = (report.entries.flatMap (·.steps)).countP (·.isDegraded) := by
  rw [RepairReport.degradedSteps]
  induction report.entries with
  | nil => rfl
  | cons r rest ih =>
      rw [List.map_cons, List.foldr_cons, ih, List.flatMap_cons, List.countP_append,
        ScenarioRepair.degradedSteps]

end Repair

namespace Pipeline

open Repair

/-- The files of scenarios are files of them, one for one. -/
theorem files_isOf (o : SpecOptions) (t : Instant) (scenarios : List Scenario) :
    List.Forall₂ (SpecFile.IsOf o) scenarios (SpecFile.ofScenarios scenarios o t) :=
  List.forall₂_map_right_iff.2 (List.forall₂_same.2 fun _ _ => ⟨rfl, rfl⟩)

/-- The scenarios that go on stand for those of the reply, with or without a report. -/
theorem goOn_sameOutline {scenarios : List Scenario} {report : Option RepairReport}
    (h : ∀ x, report = some x → List.Forall₂ ScenarioEntry scenarios x.entries) :
    List.Forall₂ SameOutline scenarios (goOn scenarios report) := by
  cases report with
  | none => exact List.forall₂_same.2 fun _ _ => ⟨rfl, rfl, rfl, rfl⟩
  | some x =>
      refine List.forall₂_map_right_iff.2 ?_
      exact (h x rfl).imp fun _ _ hr => hr.preserved.sameOutline

section

variable (p : Pipeline) (clock : Nat → Instant) (runId : String) (started generated done : Nat)

/-- **What is made of a reply and a report is consistent**, if the entries of the report stand for
the scenarios of the reply. -/
theorem output_consistent {scenarios : List Scenario} {report : Option RepairReport}
    (h : ∀ x, report = some x → List.Forall₂ ScenarioEntry scenarios x.entries) :
    (p.output clock runId scenarios report started generated done).Consistent p runId
      scenarios := by
  refine {
    runId := rfl
    generated := rfl
    before := Snapshot.captures_capture runId scenarios _
    after := Snapshot.captures_capture runId (goOn scenarios report) _
    beforeId := String.append_assoc
    afterId := by cases report <;> exact String.append_assoc
    same := goOn_sameOutline h
    files := files_isOf p.spec (clock done) (goOn scenarios report)
    compiledFiles := by cases report <;> rfl
    improvedSteps := ?_
    degradedSteps := ?_
    degradedScenarios := by cases report <;> rfl
    succeeded := by cases report <;> rfl }
  · cases report with
    | none => exact (retargeted_self scenarios).symm
    | some x => exact sum_improved_eq_retargeted (h x rfl)
  · cases report with
    | none => rfl
    | some x => exact degradedSteps_eq_countP x

end

variable {σ : Type} {p : Pipeline} {b : Backend σ} {clock : Nat → Instant} {freshId : String}
variable {complete : String → Except Failure String} {r : Request} {d : Option Nat} {w : World σ}

/-- **A run fails only as the text service does, and is consistent otherwise.** Suppose that the
repair returns if there is a reply. Then so does the run. It is a failure exactly if the text
service has failed, and with that failure; and otherwise it has the report of the repair, and what
it leaves behind is consistent with the scenarios of the reply. -/
theorem run_consistent
    (hreturns : ∀ reply, complete (p.generator.prompt r) = .ok reply →
      ∃ report u, p.repairOrSkip b r.targetUrl (Reply.parseScenarios reply) d w =
        (.ok report, u)) :
    ∃ result u, p.run b clock freshId complete r d w = (.ok result, u) ∧
      (∀ e, result = .error e ↔ complete (p.generator.prompt r) = .error e) ∧
      ∀ o, result = .ok o → ∃ reply, complete (p.generator.prompt r) = .ok reply ∧
        p.repairOrSkip b r.targetUrl (Reply.parseScenarios reply) d w = (.ok o.report, u) ∧
        o.Consistent p (r.runId.getD freshId) (Reply.parseScenarios reply) := by
  rcases hcomplete : complete (p.generator.prompt r) with e | reply
  · refine ⟨.error e, w, run_of_failure hcomplete, fun e' => ?_, by rintro _ ⟨⟩⟩
    simp
  · obtain ⟨report, u, hrepair⟩ := hreturns reply hcomplete
    refine ⟨_, u, run_of_reply hcomplete hrepair, by simp, ?_⟩
    rintro _ ⟨⟩
    refine ⟨reply, rfl, hrepair, output_consistent p clock _ _ _ _ ?_⟩
    rintro x rfl
    exact repairOrSkip_entries hrepair

/-- The backend suggests a selector for the first target and clicks on it, does not find the
second one but clicks on it all the same, and panics in the second scenario. -/
def improvesThenPanics : List (Timed CallEnd) := [
  .after 10 (.answered (.ok ⟨false, " #sign-in "⟩)),
  .after 10 (.answered (.ok ⟨false, ""⟩)),
  .after 10 (.answered (.ok ⟨true, "not found"⟩)),
  .after 10 (.answered (.ok ⟨false, ""⟩)),
  .after 10 (.panicked (some "bug"))]

/-- The sample run with this backend counts one improved step, one that was kept, and one scenario
that was given up. -/
theorem run_consistent_sample :
    ∃ o u, sampleCourse true none (.start improvesThenPanics) = (.ok (.ok o), u) ∧
      o.report.map (fun x => (x.improvedSteps, x.degradedSteps, x.degradedScenarios)) =
        some (1, 1, 1) ∧
      o.Consistent (samplePipeline true) "nightly-mcp" (Reply.parseScenarios sampleReply) := by
  obtain ⟨report, u, hrepair, hcounts⟩ := exists_sampleRepair true (.start improvesThenPanics)
    (f := fun x => x.map fun x => (x.improvedSteps, x.degradedSteps, x.degradedScenarios))
    (v := some (1, 1, 1)) (by decide +kernel)
  obtain ⟨result, u', hrun, herror, hok⟩ :=
    @run_consistent _ (samplePipeline true) .playback sampleClock "fresh"
      (fun _ => .ok sampleReply) sampleRequest none (.start improvesThenPanics)
      (by rintro _ ⟨⟩; exact ⟨report, u, hrepair⟩)
  cases result with
  | error e => cases (herror e).1 rfl
  | ok o =>
      obtain ⟨_, hreply, hreport, hconsistent⟩ := hok o rfl
      cases hreply
      rw [hrepair] at hreport
      cases hreport
      exact ⟨o, _, hrun, hcounts, hconsistent⟩

end Pipeline

end Scenarist
