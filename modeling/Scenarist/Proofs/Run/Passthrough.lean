import Scenarist.Proofs.Repair.Verdict
import Scenarist.Proofs.Run.Course

/-!
# A Failed Repair Is No Repair

If a repair has to give up every scenario, then the run is as good as one whose repair is
disabled: the same scenarios, and spec files with the same sources. There are three reasons for it
(`Pipeline.Fails`), and the last one may be a different interrupt for each scenario. They do not
matter, since all that is used of them is that the entry of a scenario that was given up holds the
scenario itself. So nothing is left of a replay that had already improved some selectors.

Two runs are compared through what they leave behind as a value. The scenarios and sources in it
depend on the report only by way of the scenarios that go on (`Pipeline.goOn`), and these are the
ones of the reply both if there is no report and if it gives every scenario up. The runs need not
have the same backend, nor take the same time; what depends on the time, such as the names of
files, may differ.

## Main results

* `givenUp_iff_fails`: why every scenario may be given up.
* `goOn_of_givenUp`: a repair that gives every scenario up hands them on as they were.
* `run_givenUp`: **a run whose repair has failed is a run without repair**.
-/

namespace Scenarist.Pipeline

open Repair

/-! ### Reports in which every scenario was given up -/

section

variable {scenarios : List Scenario}

theorem kept_of_givenUp {entries : List ScenarioRepair}
    (h : List.Forall₂ ScenarioEntry scenarios entries)
    (hgivenUp : ∀ r ∈ entries, r.outcome.isDegraded = true) :
    entries.map (·.scenario) = scenarios := by
  induction h with
  | nil => rfl
  | @cons s r rest rs hr _ ih =>
      have hkept : r.scenario = s := hr.kept (hgivenUp r List.mem_cons_self)
      rw [List.map_cons, hkept, ih fun r' hr' => hgivenUp r' (List.mem_cons_of_mem r hr')]

variable {σ : Type} {p : Pipeline} {b : Backend σ} {url : String}
variable {d : Option Nat} {w u : World σ} {report : Option RepairReport}
variable (hrepair : p.repairOrSkip b url scenarios d w = (.ok report, u))
variable (hgivenUp : ∀ x, report = some x → GivenUp x)

include hrepair hgivenUp

/-- **A repair that gives every scenario up hands them on** as they were. -/
theorem goOn_of_givenUp : goOn scenarios report = scenarios := by
  cases report with
  | none => rfl
  | some x => exact kept_of_givenUp (repairOrSkip_entries hrepair) (hgivenUp x rfl)

/-- It does not claim success, since there are scenarios if there is a report. -/
theorem not_succeeded_of_givenUp (clock : Nat → Instant) (runId : String)
    (started generated done : Nat) :
    (p.output clock runId scenarios report started generated
      done).after.metadata.validationSucceeded = false := by
  cases report with
  | none => rfl
  | some x =>
      obtain ⟨stage, hstage, -⟩ := repairOrSkip_eq_some hrepair
      refine Bool.eq_false_iff.2 fun hsucceeded => ?_
      have hnone : x.entries = [] :=
        ((validationSucceeded_of_givenUp (hgivenUp x rfl)).1 hsucceeded).2
      have hentries := repairOrSkip_entries hrepair
      rw [hnone, List.forall₂_nil_right_iff] at hentries
      exact ne_nil_of_stageFor? hstage hentries

end

/-! ### Why every scenario may be given up -/

section

variable {σ : Type} {p : Pipeline} {b : Backend σ} {url : String} {scenarios : List Scenario}
variable {w u : World σ}

/-- The repair **fails**: its limit expires, or the session cannot be connected, or the replay of
each scenario is interrupted, be it by a panic of the backend or since the connection is lost. -/
def Fails (b : Backend σ) (stage : RepairStage) (url : String) (scenarios : List Scenario)
    (w : World σ) : Prop :=
  let limit := stage.settings.limitMs?
  let d := deadline limit none w
  Expires b stage.tools stage.settings.stepDelayMs url scenarios limit w ∨
    ((Session.connect b d w).1 = .ok true →
      NoneReplayed b stage.tools url stage.settings.stepDelayMs d scenarios
        (Session.connect b d w).2)

/-- **Every scenario is given up** exactly if the repair fails. -/
theorem givenUp_iff_fails {report : RepairReport}
    (h : p.repairOrSkip b url scenarios none w = (.ok (some report), u)) :
    GivenUp report ↔
      ∃ stage, p.stageFor? scenarios = some stage ∧ Fails b stage url scenarios w.anew := by
  obtain ⟨stage, hstage, hrepair⟩ := repairOrSkip_eq_some h
  refine (within_givenUp_iff hrepair).trans ⟨fun hfails => ⟨stage, hstage, hfails⟩, ?_⟩
  rintro ⟨stage', hstage', hfails⟩
  obtain rfl : stage = stage' := Option.some.inj (hstage.symm.trans hstage')
  exact hfails

end

/-! ### Runs -/

/-- The pipeline is the other one **without repair**. -/
structure WithoutRepair (p q : Pipeline) : Prop where
  generator : q.generator = p.generator
  spec : q.spec = p.spec
  disabled : q.repairEnabled = false

/-- What is in a file, whatever its name. -/
def contents (f : SpecFile) : String × String := (f.scenarioId, f.source)

/-- Two runs **agree**: they have the same scenarios, and files with the same contents. -/
structure Agree (o o' : RunOutput) : Prop where
  before : o'.before.scenarios = o.before.scenarios
  after : o'.after.scenarios = o.after.scenarios
  files : o'.files.map contents = o.files.map contents

theorem contents_ofScenarios (o : SpecOptions) (t : Instant) (scenarios : List Scenario) :
    (SpecFile.ofScenarios scenarios o t).map contents =
      scenarios.map fun s => (s.id, Spec.compile o s) :=
  List.map_map

/-- Runs with the same options agree if the same scenarios go on. -/
theorem agree_of_goOn {p q : Pipeline} (hspec : q.spec = p.spec) {clock clock' : Nat → Instant}
    {runId runId' : String} {scenarios : List Scenario} {report report' : Option RepairReport}
    {started started' generated generated' done done' : Nat}
    (h : goOn scenarios report' = goOn scenarios report) :
    Agree (p.output clock runId scenarios report started generated done)
      (q.output clock' runId' scenarios report' started' generated' done') where
  before := rfl
  after := h
  files := by
    simp only [output, contents_ofScenarios, h, hspec]

variable {σ : Type} {p : Pipeline} {b : Backend σ} {clock : Nat → Instant} {freshId : String}
variable {complete : String → Except Failure String} {r : Request} {reply : String}
variable {w u : World σ} {report : Option RepairReport}

/-- **A run whose repair has failed is a run without repair.** Suppose that there is a reply, and
that the repair, if there is one, returns and gives every scenario up; it has failed then. The run
succeeds, the scenarios after the repair are those before it, and no success is claimed; and a run
of the same request without repair, whatever its backend, succeeds as well and agrees with it. -/
theorem run_givenUp (hreply : complete (p.generator.prompt r) = .ok reply)
    (hrepair : p.repairOrSkip b r.targetUrl (Reply.parseScenarios reply) none w = (.ok report, u))
    (hgivenUp : ∀ x, report = some x → GivenUp x) :
    (∀ x, report = some x → ∃ stage, p.stageFor? (Reply.parseScenarios reply) = some stage ∧
      Fails b stage r.targetUrl (Reply.parseScenarios reply) w.anew) ∧
    ∃ o, p.run b clock freshId complete r none w = (.ok (.ok o), u) ∧ o.report = report ∧
      o.after.scenarios = o.before.scenarios ∧
      o.after.metadata.validationSucceeded = false ∧
      ∀ {τ : Type} (q : Pipeline) (b' : Backend τ) (clock' : Nat → Instant) (freshId' : String)
        (w' : World τ), WithoutRepair p q →
        ∃ o', q.run b' clock' freshId' complete r none w' = (.ok (.ok o'), w') ∧ Agree o o' := by
  have hsame : goOn (Reply.parseScenarios reply) report = Reply.parseScenarios reply :=
    goOn_of_givenUp hrepair hgivenUp
  refine ⟨?_, _, run_of_reply hreply hrepair, rfl, hsame,
    not_succeeded_of_givenUp hrepair hgivenUp _ _ _ _ _, fun q b' clock' freshId' w' hq => ?_⟩
  · rintro x rfl
    exact (givenUp_iff_fails hrepair).1 (hgivenUp x rfl)
  · rw [← hq.generator] at hreply
    have hskipped := repairOrSkip_of_disabled hq.disabled b' r.targetUrl
      (Reply.parseScenarios reply) none w'
    exact ⟨_, run_of_reply hreply hskipped, agree_of_goOn hq.spec hsame.symm⟩

/-- The backend suggests a selector for the first target and clicks on it, panics at the second
one, and is gone in the second scenario. -/
def panicsThenGone : List (Timed CallEnd) := [
  .after 10 (.answered (.ok ⟨false, " #sign-in "⟩)),
  .after 10 (.answered (.ok ⟨false, ""⟩)),
  .after 10 (.panicked (some "bug")),
  .after 10 (.answered (.error (.io "broken pipe")))]

/-- Both scenarios of the sample run with this backend are given up, for different reasons, and
the run agrees with the one whose repair is disabled. -/
theorem run_givenUp_sample :
    ∃ o o' u, sampleCourse true none (.start panicsThenGone) = (.ok (.ok o), u) ∧
      o.report.map (fun x => x.entries.map (·.outcome.reason?)) =
        some [some "panicked: bug", some "automation backend connection lost: broken pipe"] ∧
      o.after.scenarios = o.before.scenarios ∧
      o.after.metadata.validationSucceeded = false ∧
      sampleCourse false none (.start []) = (.ok (.ok o'), .start []) ∧ Agree o o' := by
  obtain ⟨report, u, hrepair, hreasons⟩ := exists_sampleRepair true (.start panicsThenGone)
    (f := fun x => x.map fun x => x.entries.map (·.outcome.reason?))
    (v := some [some "panicked: bug", some "automation backend connection lost: broken pipe"])
    (by decide +kernel)
  have hgivenUp (x : RepairReport) (hx : report = some x) : GivenUp x := by
    intro r hr
    rw [hx, Option.map_some, Option.some.injEq] at hreasons
    have hreason := List.mem_map_of_mem (f := fun r : ScenarioRepair => r.outcome.reason?) hr
    rw [hreasons] at hreason
    cases ho : r.outcome with
    | ok s => simp [ho, Outcome.reason?] at hreason
    | degraded s reason => rfl
  obtain ⟨-, o, hrun, rfl, hscenarios, hfailed, hagree⟩ :=
    @run_givenUp _ (samplePipeline true) .playback sampleClock "fresh"
      (fun _ => .ok sampleReply) sampleRequest sampleReply _ u report rfl hrepair hgivenUp
  obtain ⟨o', hrun', hsame⟩ := hagree (samplePipeline false) .playback sampleClock "fresh"
    (.start []) ⟨rfl, rfl, rfl⟩
  exact ⟨o, o', u, hrun, hreasons, hscenarios, hfailed, hrun', hsame⟩

end Scenarist.Pipeline
