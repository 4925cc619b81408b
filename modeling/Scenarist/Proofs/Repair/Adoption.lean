import Scenarist.Proofs.Repair.Run

/-!
# Adopted Selectors Were Confirmed

A report says of a step on an element that it succeeded, and shows a target for it. This module
ties what the report says to the calls that were made: such a step is reported as a success
exactly when its own two calls, the check of its target and the execution with the target that
the report shows, were both answered by a success. A target that differs from the one the step
had is the selector that the answer to the check offered.

What counts as a success is said of the answer alone (`Confirms`), and apart from the reading of
answers as results that the replay works with. The calls that are made for a step are cut out of
the log by running the replay up to the step and one step further (`callsOfStep`); since a
replay only appends to the log, they are a block of the log of the whole run.

## Main results

* `elementStep_adoption`: one replayed step and its two calls.
* `steps_at`, `scenarios_at`: a run over a list, at one place of the list.
* `within_adoption`: **the report agrees with the calls**, for every step on an element of every
  scenario that was replayed.
-/

namespace Scenarist.Repair

variable {σ : Type} {b : Backend σ} {tools : Toolbox} {url : String} {pause : Nat}
variable {d : Option Nat} {w w' : World σ}

/-! ### What an answer says -/

/-- The answer **confirms** what was asked for: it is no failure, it is not flagged as an error,
and it does not say that it was no success. -/
def Confirms : Except Failure ToolReply → Prop
  | .error _ => False
  | .ok reply =>
    reply.isError = false ∧ ∀ a, Answer.parse? reply.text = some a → a.success ≠ some false

/-- The selector that the answer to a check offers, as it is written: the one it names, if it is
structured, or its text. -/
def offered? : Except Failure ToolReply → Option String
  | .error _ => none
  | .ok reply =>
    match Answer.parse? reply.text with
    | some a => a.selector
    | none => some reply.text

/-- A step succeeds exactly if its answer confirms it. -/
theorem stepResult_success_iff {action : Action} {target : String}
    {answer : Except Failure ToolReply} :
    (Session.stepResult action target answer).success = true ↔ Confirms answer := by
  rcases answer with e | reply
  · simp [Session.stepResult, StepResult.failed, Confirms]
  · cases hflag : reply.isError with
    | true => simp [Session.stepResult, StepResult.failed, Confirms, hflag]
    | false =>
        cases hp : Answer.parse? reply.text with
        | none => simp [Session.stepResult, Confirms, hflag, hp]
        | some a =>
            by_cases ha : a.success = some false
            · simp [Session.stepResult, StepResult.failed, Confirms, hflag, hp, ha]
            · simp [Session.stepResult, Confirms, hflag, hp, ha]

/-- A check succeeds exactly if its answer confirms it. -/
theorem validation_success_iff (target : String) {answer : Except Failure ToolReply} :
    (Session.validation target answer).success = true ↔ Confirms answer := by
  rcases answer with e | reply
  · simp [Session.validation, Validation.failed, Confirms]
  · cases hflag : reply.isError with
    | true => simp [Session.validation, Validation.failed, Confirms, hflag]
    | false =>
        cases hp : Answer.parse? reply.text with
        | none => simp [Session.validation, Confirms, hflag, hp]
        | some a =>
            by_cases ha : a.success = some false
            · simp [Session.validation, Validation.failed, Confirms, hflag, hp, ha]
            · simp [Session.validation, Confirms, hflag, hp, ha]

/-- A check that succeeds suggests the selector that its answer offers, if it is any better. -/
theorem validation_improvedSelector (target : String) {answer : Except Failure ToolReply}
    (h : Confirms answer) : (Session.validation target answer).improvedSelector =
      betterSelector (offered? answer) target := by
  rcases answer with e | reply
  · exact h.elim
  · obtain ⟨hflag, hsuccess⟩ := h
    cases hp : Answer.parse? reply.text with
    | none => simp [Session.validation, offered?, hflag, hp]
    | some a => simp [Session.validation, offered?, hflag, hp, hsuccess a hp]

/-! ### Selectors that are any better -/

/-- What is left of a text without the blanks at its ends is not blank, if there is any. -/
theorem trim_not_isAllBlank {cs : List Char} (h : Text.trim cs ≠ []) :
    Text.isAllBlank (Text.trim cs) = false := by
  have hdrop : (Text.trimStart cs).reverse.dropWhile Text.isBlank ≠ [] := by
    simpa [Text.trim, Text.trimEnd, Text.trimStart] using h
  have hhead := List.head_dropWhile_not Text.isBlank hdrop
  rw [Text.isAllBlank, Text.trim, Text.trimEnd, List.all_reverse, List.all_eq_false]
  exact ⟨_, List.head_mem hdrop, by simpa using hhead⟩

theorem isBlankText_trimmed {s : String} (h : (trimmed s).isEmpty = false) :
    isBlankText (trimmed s) = false := by
  have hne : Text.trim s.toList ≠ [] := by
    intro hnil
    exact String.isEmpty_eq_false_iff.1 h (by rw [trimmed, hnil, String.ofList_nil])
  rw [isBlankText, trimmed, String.toList_ofList]
  exact trim_not_isAllBlank hne

/-- A better selector is the trimmed candidate, is not blank, and is another one. -/
theorem betterSelector_eq_some {offer : Option String} {current selector : String}
    (h : betterSelector offer current = some selector) :
    ∃ s, offer = some s ∧ selector = trimmed s ∧ isBlankText selector = false ∧
      selector ≠ trimmed current := by
  cases offer with
  | none => simp [betterSelector] at h
  | some s =>
      simp only [betterSelector, Option.map_some] at h
      split at h
      · simp at h
      · next hnot =>
        cases h
        simp only [Bool.or_eq_true, decide_eq_true_eq, not_or, Bool.not_eq_true] at hnot
        exact ⟨s, rfl, rfl, isBlankText_trimmed hnot.1, hnot.2⟩

/-! ### One step and its calls -/

/-- The calls **confirm** that the step works with the target: they are a check of the target
that the step had, which is answered as given, and right after it the execution of the step with
the target, and both answers are successes. -/
def ConfirmedBy (tools : Toolbox) (s : Step) (target : String)
    (answer : Except Failure ToolReply) (calls : List Event) : Prop :=
  ∃ tool at₁ delay₁ at₂ delay₂ reply,
    tools.forAction? s.action = some tool ∧ Confirms answer ∧ Confirms reply ∧
    calls = [
      .call at₁ tools.validateSelector.name
        (Template.render s.target none tools.validateSelector.arguments)
        (.after delay₁ (.answered answer)),
      .call at₂ tool.name (Template.render target s.data tool.arguments)
        (.after delay₂ (.answered reply))]

/-- What a report says of a step on an element **agrees** with the calls made for it. -/
structure Adoption (tools : Toolbox) (s : Step) (o : Outcome Step) (calls : List Event) :
    Prop where
  /-- The step is reported as a success exactly if its calls confirm its target. -/
  confirmed : o.isOk = true ↔ ∃ answer, ConfirmedBy tools s o.value.target answer calls
  /-- A new target is what the answer to the check offered. -/
  adopted : o.value.target ≠ s.target → ∃ answer offer,
    ConfirmedBy tools s o.value.target answer calls ∧ offered? answer = some offer ∧
      o.value.target = trimmed offer ∧ isBlankText o.value.target = false ∧
      o.value.target ≠ trimmed s.target
  kept : o.isOk = false → o.value = s

theorem exists_tool (tools : Toolbox) {a : Action} (h : a.targetsElement = true) :
    ∃ tool, tools.forAction? a = some tool := by
  cases a with
  | goto => simp [Action.targetsElement] at h
  | other name => simp [Action.targetsElement] at h
  | _ => exact ⟨_, rfl⟩

theorem elementOutcome_isOk_iff {s : Step} {v : Validation} {r : StepResult} :
    (elementOutcome s v r).isOk = true ↔ v.success = true ∧ r.success = true := by
  rw [elementOutcome]
  cases hv : v.success <;> cases hr : r.success <;> simp [Outcome.isOk]

theorem elementOutcome_kept {s : Step} {v : Validation} {r : StepResult}
    (h : (elementOutcome s v r).isOk = false) : (elementOutcome s v r).value = s := by
  rw [elementOutcome] at h ⊢
  cases hv : v.success <;> cases hr : r.success <;> simp_all [Outcome.isOk, Outcome.value]

theorem elementOutcome_target {s : Step} {v : Validation} {r : StepResult}
    (h : (elementOutcome s v r).isOk = true) :
    (elementOutcome s v r).value.target = candidate s v := by
  obtain ⟨hv, hr⟩ := elementOutcome_isOk_iff.1 h
  simp [elementOutcome, hv, hr, Outcome.value, remarked, Step.retarget]

/-- The selector that a successful check puts in the place of the target, if it is a different
one. -/
theorem candidate_ne_target {s : Step} {answer : Except Failure ToolReply}
    (hanswer : Confirms answer)
    (h : candidate s (Session.validation s.target answer) ≠ s.target) :
    ∃ offer, offered? answer = some offer ∧
      candidate s (Session.validation s.target answer) = trimmed offer ∧
      isBlankText (candidate s (Session.validation s.target answer)) = false ∧
      candidate s (Session.validation s.target answer) ≠ trimmed s.target := by
  have hsuccess := (validation_success_iff s.target).2 hanswer
  have himproved := validation_improvedSelector s.target hanswer
  cases hb : betterSelector (offered? answer) s.target with
  | none => simp [candidate, hsuccess, himproved, hb] at h
  | some selector =>
      have hc : candidate s (Session.validation s.target answer) = selector := by
        simp [candidate, hsuccess, himproved, hb]
      rw [hc]
      exact betterSelector_eq_some hb

/-- The outcome that is read off the answers to a check and to an execution with its candidate
agrees with these two calls. -/
theorem elementOutcome_adoption {s : Step} {tool : Tool} {answer reply : Except Failure ToolReply}
    {r : StepResult} {at₁ delay₁ at₂ delay₂ : Nat} {calls : List Event}
    (htool : tools.forAction? s.action = some tool) (hr : r.success = true ↔ Confirms reply)
    (hcalls : calls = [
      .call at₁ tools.validateSelector.name
        (Template.render s.target none tools.validateSelector.arguments)
        (.after delay₁ (.answered answer)),
      .call at₂ tool.name
        (Template.render (candidate s (Session.validation s.target answer)) s.data tool.arguments)
        (.after delay₂ (.answered reply))]) :
    Adoption tools s (elementOutcome s (Session.validation s.target answer) r) calls := by
  -- Both parts about a success rest on this: the calls of a success confirm its candidate.
  have hconfirmed : (elementOutcome s (Session.validation s.target answer) r).isOk = true →
      Confirms answer ∧ ConfirmedBy tools s
        (elementOutcome s (Session.validation s.target answer) r).value.target answer calls := by
    intro hok
    obtain ⟨hchecked, hexecuted⟩ := elementOutcome_isOk_iff.1 hok
    have hanswer := (validation_success_iff s.target).1 hchecked
    rw [elementOutcome_target hok]
    exact ⟨hanswer, tool, at₁, delay₁, at₂, delay₂, reply, htool, hanswer, hr.1 hexecuted, hcalls⟩
  refine ⟨⟨fun hok => ⟨answer, (hconfirmed hok).2⟩, ?_⟩, fun hne => ?_, elementOutcome_kept⟩
  · rintro ⟨_, _, _, _, _, _, _, -, hanswer, hreply, hsame⟩
    rw [hcalls] at hsame
    simp only [List.cons.injEq, Event.call.injEq, Timed.after.injEq, CallEnd.answered.injEq]
      at hsame
    obtain ⟨⟨-, -, -, -, rfl⟩, ⟨-, -, -, -, rfl⟩, -⟩ := hsame
    exact elementOutcome_isOk_iff.2 ⟨(validation_success_iff s.target).2 hanswer, hr.2 hreply⟩
  · cases hok : (elementOutcome s (Session.validation s.target answer) r).isOk with
    | false => exact absurd (congrArg Step.target (elementOutcome_kept hok)) hne
    | true =>
        obtain ⟨hanswer, hcalls⟩ := hconfirmed hok
        have htarget := elementOutcome_target hok
        obtain ⟨offer, hoffer⟩ := candidate_ne_target hanswer (htarget ▸ hne)
        exact ⟨answer, offer, hcalls, htarget ▸ hoffer⟩

/-- **One replayed step and its calls.** A step on an element that was replayed has added two
calls to the log, and its outcome agrees with them. -/
theorem elementStep_adoption {s : Step} {o : Outcome Step}
    (hs : s.action.targetsElement = true)
    (h : elementStep b tools s d w = (.ok (.ok o), w')) :
    ∃ calls, w'.log = w.log ++ calls ∧ Adoption tools s o calls := by
  obtain ⟨tool, htool⟩ := exists_tool tools hs
  obtain ⟨v, r, u, hv, hr, rfl⟩ := elementStep_eq_ok h
  obtain ⟨delay₁, answer, rfl, hlog₁⟩ := Session.validateSelector_answered hv
  obtain ⟨delay₂, reply, time, hresult, hlog₂⟩ := Session.executeStep_answered htool hr
  rw [hlog₁, List.append_assoc] at hlog₂
  refine ⟨_, hlog₂, elementOutcome_adoption htool ?_ rfl⟩
  rw [hresult]
  exact stepResult_success_iff

/-! ### The calls made for a step -/

section

variable (b : Backend σ) (tools : Toolbox) (url : String) (pause : Nat) (d : Option Nat)

/-- The world after the first `count` of the steps were replayed. -/
def afterSteps (all : List Step) (count : Nat) (w : World σ) : World σ :=
  (steps b tools url pause 0 (all.take count) d w).2

/-- The calls that are made for the step at a place: what its replay adds to the log. -/
def callsOfStep (all : List Step) (place : Nat) (w : World σ) : List Event :=
  (afterSteps b tools url pause d all (place + 1) w).log.drop
    (afterSteps b tools url pause d all place w).log.length

/-- The world after the first `count` of the scenarios were replayed. -/
def afterScenarios (all : List Scenario) (count : Nat) (w : World σ) : World σ :=
  (scenarios b tools url pause (all.take count) d w).2

end

/-- **Replayed steps, at one place**: the step there was replayed, after a pause, in the world
that the steps before it leave. -/
theorem steps_at {index : Nat} {all : List Step} {os : List (Outcome Step)}
    (h : steps b tools url pause index all d w = (.ok (.ok os), w')) {i : Nat} {s : Step}
    (hs : all[i]? = some s) :
    ∃ o t, os[i]? = some o ∧
      step b tools url (index + i) s d
        { (steps b tools url pause index (all.take i) d w).2 with now := t } =
        (.ok (.ok o), (steps b tools url pause index (all.take (i + 1)) d w).2) := by
  induction all generalizing index os w i with
  | nil => simp at hs
  | cons x rest ih =>
      obtain ⟨t, o, os', u, hx, hrest, rfl, hworld⟩ := steps_cons_eq_ok h
      cases i with
      | zero =>
          obtain rfl : x = s := by simpa using hs
          refine ⟨o, t, rfl, ?_⟩
          rw [List.take_succ_cons, List.take_zero, hworld]
          exact hx
      | succ i =>
          obtain ⟨o', t', ho', hstep⟩ := ih hrest (by simpa using hs)
          refine ⟨o', t', by simpa using ho', ?_⟩
          rw [List.take_succ_cons, List.take_succ_cons, hworld, hworld]
          rw [Nat.add_right_comm, Nat.add_assoc] at hstep
          exact hstep

/-- **Replayed scenarios, at one place**: the scenario there was replayed in the world that the
scenarios before it leave. -/
theorem scenarios_at {all : List Scenario} {rs : List ScenarioRepair}
    (h : scenarios b tools url pause all d w = (.ok rs, w')) {k : Nat} {s : Scenario}
    (hs : all[k]? = some s) :
    ∃ r, rs[k]? = some r ∧
      scenario b tools url pause s d (afterScenarios b tools url pause d all k w) =
        (.ok r, afterScenarios b tools url pause d all (k + 1) w) := by
  simp only [afterScenarios]
  induction all generalizing rs w k with
  | nil => simp at hs
  | cons x rest ih =>
      obtain ⟨r, rs', u, hx, hrest, rfl, hworld⟩ := scenarios_cons_eq_ok h
      cases k with
      | zero =>
          obtain rfl : x = s := by simpa using hs
          refine ⟨r, rfl, ?_⟩
          rw [List.take_succ_cons, List.take_zero, hworld]
          exact hx
      | succ k =>
          obtain ⟨r', hr', hscenario⟩ := ih hrest (by simpa using hs)
          refine ⟨r', by simpa using hr', ?_⟩
          rw [List.take_succ_cons, List.take_succ_cons, hworld, hworld]
          exact hscenario

/-- The log of a replay of steps begins with the log of a replay of the first of them. -/
theorem steps_take_log {index : Nat} {all : List Step} {os : List (Outcome Step)}
    (h : steps b tools url pause index all d w = (.ok (.ok os), w')) (count : Nat) :
    (steps b tools url pause index (all.take count) d w).2.log <+: w'.log := by
  induction all generalizing index os w count with
  | nil =>
      have hworld : (steps b tools url pause index (List.take count []) d w).2 = w' := by
        rw [List.take_nil, h]
      exact hworld ▸ List.prefix_refl _
  | cons x rest ih =>
      obtain ⟨t, o, os', u, hx, hrest, rfl, hworld⟩ := steps_cons_eq_ok h
      cases count with
      | zero => exact (congrArg (·.2.log) h) ▸ steps_appends b tools url pause index _ d w
      | succ count =>
          rw [List.take_succ_cons, hworld]
          exact ih hrest count

/-- The log of a replay of scenarios begins with the log of a replay of the first of them. -/
theorem scenarios_take_log {all : List Scenario} {rs : List ScenarioRepair}
    (h : scenarios b tools url pause all d w = (.ok rs, w')) (count : Nat) :
    (scenarios b tools url pause (all.take count) d w).2.log <+: w'.log := by
  induction all generalizing rs w count with
  | nil =>
      have hworld : (scenarios b tools url pause (List.take count []) d w).2 = w' := by
        rw [List.take_nil, h]
      exact hworld ▸ List.prefix_refl _
  | cons x rest ih =>
      obtain ⟨r, rs', u, hx, hrest, rfl, hworld⟩ := scenarios_cons_eq_ok h
      cases count with
      | zero => exact (congrArg (·.2.log) h) ▸ scenarios_appends b tools url pause _ d w
      | succ count =>
          rw [List.take_succ_cons, hworld]
          exact ih hrest count

/-- An entry that is no scenario kept is that of a scenario whose steps were all replayed. -/
theorem replayed_of_isOk {s : Scenario} {r : ScenarioRepair}
    (h : scenario b tools url pause s d w = (.ok r, w')) (hok : r.outcome.isOk = true) :
    ∃ os elapsed, steps b tools url pause 0 s.steps d w = (.ok (.ok os), w') ∧
      r = .replayed s os elapsed := by
  rcases scenario_eq_ok h with hreplayed | ⟨reason, elapsed, rfl⟩
  · exact hreplayed
  · simp [ScenarioRepair.kept, Outcome.isOk] at hok

/-- A repair with an entry that is no scenario kept has replayed the scenarios in a connected
session, and its log begins with theirs. -/
theorem scenarios_of_isOk {all : List Scenario} {limit outer : Option Nat} {report : RepairReport}
    (h : within b tools pause url all limit outer w = (.ok report, w')) {k : Nat}
    {r : ScenarioRepair} (hr : report.entries[k]? = some r) (hok : r.outcome.isOk = true) :
    ∃ u, scenarios b tools url pause all (deadline limit outer w)
        (Session.connect b (deadline limit outer w) w).2 = (.ok report.entries, u) ∧
      u.log <+: w'.log := by
  -- An entry of a passthrough or of an expired repair would be that of a scenario kept.
  have hkept (reason : String) (elapsed : Nat)
      (hentries : (all.map (ScenarioRepair.kept · reason elapsed))[k]? = some r) : False := by
    rw [List.getElem?_map, Option.map_eq_some_iff] at hentries
    obtain ⟨s, -, rfl⟩ := hentries
    simp [ScenarioRepair.kept, Outcome.isOk] at hok
  rcases within_eq_ok h with h | ⟨ms, -, rfl⟩
  · rcases unlimited_eq_ok h with ⟨u, u', entries, hconnect, hs, hclose, rfl⟩ | ⟨_, _, -, rfl⟩
    · refine ⟨u', by rw [hconnect]; exact hs, ?_⟩
      exact (congrArg (·.2.log) hclose) ▸ Session.disconnect_appends b _ u'
    · exact (hkept _ _ hr).elim
  · exact (hkept _ _ hr).elim

/-- **The report agrees with the calls.** For every step on an element of a scenario that was
replayed, the report has an outcome whose value is the step that goes on. It is a success exactly
if the calls made for the step were a check of its own target and then its execution with the
target that goes on, both confirmed; a different target was offered by the answer to the check.
The calls are a block of the log of the run, right after what was logged before the step. -/
theorem within_adoption {all : List Scenario} {limit outer : Option Nat} {report : RepairReport}
    (h : within b tools pause url all limit outer w = (.ok report, w'))
    {k : Nat} {s : Scenario} {r : ScenarioRepair} (hs : all[k]? = some s)
    (hr : report.entries[k]? = some r) (hok : r.outcome.isOk = true)
    {i : Nat} {t : Step} (ht : s.steps[i]? = some t) (helement : OnElement t) :
    let d := deadline limit outer w
    let begun := afterScenarios b tools url pause d all k (Session.connect b d w).2
    let calls := callsOfStep b tools url pause d s.steps i begun
    (∃ o, r.steps[i]? = some o ∧ r.scenario.steps[i]? = some o.value ∧
      Adoption tools t o calls) ∧
    (afterSteps b tools url pause d s.steps i begun).log ++ calls <+: w'.log := by
  intro d begun calls
  obtain ⟨u, hall, hlog⟩ := scenarios_of_isOk h hr hok
  obtain ⟨r', hr', hscenario⟩ := scenarios_at hall hs
  obtain rfl : r' = r := Option.some.inj (hr'.symm.trans hr)
  obtain ⟨os, elapsed, hsteps, rfl⟩ := replayed_of_isOk hscenario hok
  obtain ⟨o, time, ho, hstep⟩ := steps_at hsteps ht
  rw [step_onElement helement] at hstep
  obtain ⟨added, hadded, hadoption⟩ := elementStep_adoption helement.1 hstep
  have hcalls : calls = added := by
    change List.drop _ (steps b tools url pause 0 (s.steps.take (i + 1)) d begun).2.log = added
    rw [hadded]
    exact List.drop_left
  refine ⟨⟨o, ho, ?_, hcalls ▸ hadoption⟩, ?_⟩
  · change (os.map (·.value))[i]? = _
    rw [List.getElem?_map, ho, Option.map_some]
  · rw [hcalls]
    have hscenarioLog : (afterSteps b tools url pause d s.steps i begun).log ++ added <+:
        (afterScenarios b tools url pause d all (k + 1) (Session.connect b d w).2).log :=
      hadded ▸ steps_take_log hsteps (i + 1)
    exact hscenarioLog.trans ((scenarios_take_log hall (k + 1)).trans hlog)

/-- In the sample run the second step of the first scenario goes on with the selector that was
offered for it. -/
theorem within_adoption_sample :
    ∃ report r o, sampleRun = (.ok report, sampleRun.2) ∧ report.entries[0]? = some r ∧
      r.outcome.isOk = true ∧ r.steps[1]? = some o ∧ o.value.target = "#sign-in" ∧
      Adoption .bySelector ⟨.click, "#login", none, "Open the form"⟩ o
        (callsOfStep .playback .bySelector "https://x.test" 0 (some 1000) signIn.steps 1
          (Session.connect .playback (some 1000) (.start signInThenPanic)).2) := by
  obtain ⟨report, hrun, hread⟩ := exists_sampleReport
    (f := fun report => report.entries[0]?.map fun r =>
      (r.outcome.isOk, r.steps[1]?.map (·.value.target)))
    (v := some (true, some "#sign-in")) (by decide +kernel)
  obtain ⟨r, hr, hread⟩ := Option.map_eq_some_iff.1 hread
  obtain ⟨hok, htarget⟩ := Prod.mk.inj hread
  obtain ⟨⟨o, ho, -, hadoption⟩, -⟩ :=
    within_adoption hrun (k := 0) rfl hr hok (i := 1) rfl (by decide)
  rw [ho] at htarget
  exact ⟨report, r, o, hrun, hr, hok, ho, Option.some.inj htarget, hadoption⟩

end Scenarist.Repair
