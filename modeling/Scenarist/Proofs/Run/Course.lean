import Scenarist.Proofs.Repair.Preservation
import Scenarist.Run.Pipeline

/-!
# The Course of a Run

A run has one step that takes its course with the backend, and that is the repair. What comes
before it, the reply of the text service, is a value, and so is all that follows: both snapshots
and the spec files are made of the scenarios of the reply, of the report, and of three points in
time (`Pipeline.output`). So a run returns exactly as its repair does (`run_of_reply`), and what a
run leaves behind can be studied without looking at any world.

The repair is left out if it is disabled, if there is no backend for it, or if the reply has no
scenarios (`repairOrSkip`). Either way the scenarios that go on stand for those of the reply.

## Main results

* `proceed_eq`: the course of a run after the reply.
* `run_of_failure`, `run_of_reply`: what a run comes to.
* `repairOrSkip_entries`: the entries of the report stand for the scenarios of the reply.
-/

namespace Scenarist.Pipeline

open Repair

variable {σ : Type} {p : Pipeline} {b : Backend σ} {url : String} {scenarios : List Scenario}
variable {d : Option Nat} {w u : World σ} {report : Option RepairReport}

/-- The repair in a run: its report if there is a stage for the scenarios, and nothing
otherwise. -/
def repairOrSkip (p : Pipeline) (b : Backend σ) (url : String) (scenarios : List Scenario) :
    Play σ (Option RepairReport) :=
  match p.stageFor? scenarios with
  | some stage => do
    let report ← repairStage b stage url scenarios
    return some report
  | none => return none

/-- The scenarios that go on after the repair. -/
def goOn (scenarios : List Scenario) (report : Option RepairReport) : List Scenario :=
  (report.map (·.scenarios)).getD scenarios

/-- What a run leaves behind that began at `started`, took its first snapshot at `generated` and
its second one at `done`. -/
def output (p : Pipeline) (clock : Nat → Instant) (runId : String) (scenarios : List Scenario)
    (report : Option RepairReport) (started generated done : Nat) : RunOutput :=
  let after := goOn scenarios report
  let files := SpecFile.ofScenarios after p.spec (clock done)
  let stage := if report.isSome then Stage.repaired else .repairSkipped
  let metadata := withReport
    (.start (clock done) p.modelId (done - started) .withRepair stage) report
  { runId
    before := .capture runId scenarios
      (.start (clock generated) p.modelId (generated - started) .generationOnly .generated)
    after := .capture runId after { metadata with compiledFiles := files.length }
    files
    report }

/-- **The course of a run** after the reply: the repair, between two looks at the time. -/
theorem proceed_eq (p : Pipeline) (b : Backend σ) (clock : Nat → Instant) (runId url : String)
    (started : Nat) (scenarios : List Scenario) :
    p.proceed b clock runId url started scenarios = (do
      let generated ← Play.look
      let report ← p.repairOrSkip b url scenarios
      let done ← Play.look
      return p.output clock runId scenarios report started generated.now done.now) := by
  rw [proceed, repairOrSkip]
  congr
  funext generated
  cases p.stageFor? scenarios with
  | none => rfl
  | some stage =>
      rw [bind_assoc]
      rfl

/-- What a run goes on to once its repair has returned. -/
theorem proceed_of_repairOrSkip (h : p.repairOrSkip b url scenarios d w = (.ok report, u))
    (clock : Nat → Instant) (runId : String) (started : Nat) :
    p.proceed b clock runId url started scenarios d w =
      (.ok (p.output clock runId scenarios report started w.now u.now), u) := by
  rw [proceed_eq, Play.look_bind, Play.bind_of_ok h]
  rfl

section

variable {clock : Nat → Instant} {freshId : String} {complete : String → Except Failure String}
variable {r : Request}

/-- A run without a reply fails as the text service does. -/
theorem run_of_failure {e : Failure} (h : complete (p.generator.prompt r) = .error e) :
    p.run b clock freshId complete r d w = (.ok (.error e), w) := by
  rw [run, Play.look_bind, GeneratorSettings.generate, h]
  rfl

/-- A run with a reply returns as its repair does. -/
theorem run_of_reply {reply : String} (hreply : complete (p.generator.prompt r) = .ok reply)
    (h : p.repairOrSkip b r.targetUrl (Reply.parseScenarios reply) d w = (.ok report, u)) :
    p.run b clock freshId complete r d w =
      (.ok (.ok (p.output clock (r.runId.getD freshId) (Reply.parseScenarios reply) report
        w.now w.now u.now)), u) := by
  rw [run, Play.look_bind, GeneratorSettings.generate, hreply]
  exact Play.bind_of_ok (proceed_of_repairOrSkip h clock _ _)

end

/-! ### The repair in a run -/

/-- The scenarios that are repaired are not none. -/
theorem ne_nil_of_stageFor? {stage : RepairStage} (h : p.stageFor? scenarios = some stage) :
    scenarios ≠ [] := by
  rintro rfl
  simp [stageFor?] at h

/-- A report comes from a repair within the limit, in a session of its own. -/
theorem repairOrSkip_eq_some {report : RepairReport}
    (h : p.repairOrSkip b url scenarios d w = (.ok (some report), u)) :
    ∃ stage, p.stageFor? scenarios = some stage ∧
      within b stage.tools stage.settings.stepDelayMs url scenarios stage.settings.limitMs?
        d w.anew = (.ok report, u) := by
  rw [repairOrSkip] at h
  cases hstage : p.stageFor? scenarios with
  | none => simp [hstage, Play.pure_eq_ok_iff] at h
  | some stage =>
      rw [hstage] at h
      obtain ⟨report', u', hrepair, h⟩ := Play.bind_eq_ok_iff.1 h
      obtain ⟨hreport, rfl⟩ := Play.pure_eq_ok_iff.1 h
      cases hreport
      exact ⟨stage, rfl, hrepair⟩

/-- A pipeline whose repair is disabled skips it, whatever the backend. -/
theorem repairOrSkip_of_disabled (hp : p.repairEnabled = false) (b : Backend σ) (url : String)
    (scenarios : List Scenario) (d : Option Nat) (w : World σ) :
    p.repairOrSkip b url scenarios d w = (.ok none, w) := by
  have hstage : p.stageFor? scenarios = none := by
    rw [stageFor?, Option.filter_eq_none_iff]
    intro stage hstage
    rw [repairEnabled, hstage] at hp
    have hdisabled : stage.settings.enabled = false := hp
    simp [hdisabled]
  rw [repairOrSkip, hstage]
  rfl

/-- **The entries of the report stand for the scenarios** of the reply. -/
theorem repairOrSkip_entries {report : RepairReport}
    (h : p.repairOrSkip b url scenarios d w = (.ok (some report), u)) :
    List.Forall₂ ScenarioEntry scenarios report.entries := by
  obtain ⟨stage, -, hrepair⟩ := repairOrSkip_eq_some h
  exact within_entries hrepair

/-! ### A run to look at -/

/-- A reply with two scenarios of clicks, and hardly more than that. -/
def sampleReply : String :=
  "\x7b\"scenarios\":[\x7b\"steps\":[\x7b\"target\":\"#a\"\x7d,\x7b\"target\":\"#b\"\x7d]\x7d,\x7b\"steps\":[\x7b\"target\":\"#c\"\x7d]\x7d]\x7d"

/-- The scenarios of this reply: all that it does not say has a default. -/
def sampleScenarios : List Scenario := [
  ⟨"scenario_1", "Scenario 1", [.plain .click "#a", .plain .click "#b"], .ofList [defaultTag],
    none⟩,
  ⟨"scenario_2", "Scenario 2", [.plain .click "#c"], .ofList [defaultTag], none⟩]

theorem parseScenarios_sampleReply : Reply.parseScenarios sampleReply = sampleScenarios := by
  decide +kernel

/-- A request whose id ends like the id of a snapshot. -/
def sampleRequest : Request := ⟨"Users can click", "https://x.test", none, some "nightly-mcp"⟩

/-- A pipeline with a repair within a second, if it is enabled. -/
def samplePipeline (enabled : Bool) : Pipeline :=
  ⟨"canned-model", ⟨2⟩, ⟨.roleFirst, .typeScript⟩, some ⟨.bySelector, enabled, 0, 1⟩⟩

/-- A clock that begins at midnight. -/
def sampleClock (ms : Nat) : Instant := ⟨19844, ms / 1000, 0⟩

/-- The run of this request with this reply. -/
def sampleCourse (enabled : Bool) : Play (List (Timed CallEnd)) (Except Failure RunOutput) :=
  (samplePipeline enabled).run .playback sampleClock "fresh" (fun _ => .ok sampleReply)
    sampleRequest

/-- What is read off the report of a repair by evaluation is so in a run with the reply. -/
theorem exists_sampleRepair (enabled : Bool) (w : World (List (Timed CallEnd))) {β : Type}
    {f : Option RepairReport → β} {v : β}
    (h : ((samplePipeline enabled).repairOrSkip .playback sampleRequest.targetUrl sampleScenarios
      none w).1.toOption.map f = some v) :
    ∃ report u, (samplePipeline enabled).repairOrSkip .playback sampleRequest.targetUrl
      (Reply.parseScenarios sampleReply) none w = (.ok report, u) ∧ f report = v := by
  rw [parseScenarios_sampleReply]
  obtain ⟨report, hreport, hf⟩ := exists_ok _ h
  exact ⟨report, _, hreport, hf⟩

end Scenarist.Pipeline
