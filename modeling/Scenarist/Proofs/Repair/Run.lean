import Scenarist.Proofs.Session.Course
import Scenarist.Repair.Replay

/-!
# Inversion of a Repair

What it means that a replay comes to its end, level by level: for the steps of a scenario that
were all replayed, for a scenario, for a list of scenarios, and for a repair with or without a
limit. Each level is inverted once here; the theorems about repairs argue from these inversions
and never unfold the replay again.

A step falls under one of four rules (`step_other`, `step_goto`, `step_root`, `step_onElement`),
and only the last one may change a target.

## Main results

* `steps_cons_eq_ok`: replayed steps are the first step replayed, and then the rest.
* `scenario_eq_ok`: a scenario was either replayed to its last step, or kept.
* `within_eq_ok`: a repair that ends is a repair without a limit that ended before the deadline,
  or has kept every scenario.
-/

namespace Scenarist.Repair

variable {σ : Type} {b : Backend σ} {tools : Toolbox} {url : String} {pause : Nat}
variable {d : Option Nat} {w w' : World σ}

/-! ### The four rules of a step -/

/-- The target of the step is an element, which is checked before the step is executed. -/
def OnElement (s : Step) : Prop :=
  s.action.targetsElement = true ∧ ¬ (s.action = .wait ∧ s.targetsRoot = true)

instance (s : Step) : Decidable (OnElement s) := inferInstanceAs (Decidable (_ ∧ _))

/-- A step with an action that is not recognized is degraded, and nothing is asked for. -/
theorem step_other {s : Step} {name : String} (hs : s.action = .other name) (index : Nat) :
    step b tools url index s = pure (.ok (.degraded s ("unrecognized action: " ++ name))) := by
  simp only [step, hs]

/-- A step that goes to a page is carried out, and the first one goes to the base address. -/
theorem step_goto {s : Step} (hs : s.action = .goto) (index : Nat) :
    step b tools url index s = (do
      let r ← Session.executeStep b tools .goto (if index = 0 then url else s.target) none
      return r.map (navigationOutcome s)) := by
  simp only [step, hs]

/-- A step that waits for the page itself is carried out. -/
theorem step_root {s : Step} (hs : s.action = .wait) (hroot : s.targetsRoot = true)
    (index : Nat) :
    step b tools url index s = (do
      let r ← Session.executeStep b tools .wait s.target s.data
      return r.map (waitOutcome s)) := by
  simp only [step, hs, hroot, if_true]

/-- A step on an element is replayed as such, wherever it stands. -/
theorem step_onElement {s : Step} (hs : OnElement s) (index : Nat) :
    step b tools url index s = elementStep b tools s := by
  obtain ⟨helement, hroot⟩ := hs
  cases ha : s.action with
  | goto => simp [ha, Action.targetsElement] at helement
  | other name => simp [ha, Action.targetsElement] at helement
  | wait =>
      have hfalse : s.targetsRoot = false := by simpa [ha] using hroot
      simp [step, ha, hfalse]
  | _ => simp only [step, ha]

/-- Every step falls under one of the four rules. -/
theorem rule_cases (s : Step) :
    (∃ name, s.action = .other name) ∨ s.action = .goto ∨
      (s.action = .wait ∧ s.targetsRoot = true) ∨ OnElement s := by
  cases ha : s.action with
  | other name => exact .inl ⟨name, rfl⟩
  | goto => exact .inr (.inl rfl)
  | wait =>
      by_cases hroot : s.targetsRoot = true
      · exact .inr (.inr (.inl ⟨rfl, hroot⟩))
      · exact .inr (.inr (.inr ⟨by rw [ha]; rfl, fun h => hroot h.2⟩))
  | _ => exact .inr (.inr (.inr ⟨by rw [ha]; rfl, fun h => by simp [ha] at h⟩))

/-- A step on an element that was replayed: its target was checked, the step was executed with
the candidate of the check, and the outcome is read off both results. -/
theorem elementStep_eq_ok {s : Step} {o : Outcome Step}
    (h : elementStep b tools s d w = (.ok (.ok o), w')) :
    ∃ v r u, Session.validateSelector b tools s.target d w = (.ok (.ok v), u) ∧
      Session.executeStep b tools s.action (candidate s v) s.data d u = (.ok (.ok r), w') ∧
      o = elementOutcome s v r := by
  obtain ⟨_, u, hv, h⟩ := Play.bind_eq_ok_iff.1 h
  split at h
  · simp [Play.pure_eq_ok_iff] at h
  · next v =>
    obtain ⟨_, u', hr, h⟩ := Play.bind_eq_ok_iff.1 h
    split at h
    · simp [Play.pure_eq_ok_iff] at h
    · next r =>
      obtain ⟨ho, rfl⟩ := Play.pure_eq_ok_iff.1 h
      cases ho
      exact ⟨v, r, u, hv, hr, rfl⟩

/-- A step that is executed without a check: its outcome is read off the result. -/
theorem executed_eq_ok {p : Play σ (Except SessionError StepResult)}
    {f : StepResult → Outcome Step} {o : Outcome Step}
    (h : (do let r ← p; return r.map f : Play σ (Except SessionError (Outcome Step))) d w =
      (.ok (.ok o), w')) :
    ∃ r, p d w = (.ok (.ok r), w') ∧ o = f r := by
  obtain ⟨r, u, hp, h⟩ := Play.bind_eq_ok_iff.1 h
  obtain ⟨ho, rfl⟩ := Play.pure_eq_ok_iff.1 h
  cases r with
  | error e => cases ho
  | ok r =>
      cases ho
      exact ⟨r, hp, rfl⟩

/-! ### The steps of a scenario -/

/-- The replay of a step goes on with the steps after it, unless the connection is lost. -/
def continued (b : Backend σ) (tools : Toolbox) (url : String) (pause index : Nat)
    (rest : List Step) : Except SessionError (Outcome Step) →
      Play σ (Except SessionError (List (Outcome Step)))
  | .error e => pure (.error e)
  | .ok o => do
    match ← steps b tools url pause (index + 1) rest with
    | .error e => return .error e
    | .ok os => return .ok (o :: os)

/-- The pause before a step that is not the first. -/
def paced (pause index : Nat) : Play σ Unit :=
  if 0 < index && 0 < pause then Play.sleep pause else pure ()

/-- Steps are taken one by one, each after its pause, until one of them loses the connection. -/
theorem steps_cons (index : Nat) (s : Step) (rest : List Step) :
    steps b tools url pause index (s :: rest) = (do
      paced pause index
      let r ← step b tools url index s
      continued b tools url pause index rest r) := by
  rw [steps, paced]
  split <;> rfl

/-- A pause that ends has taken nothing but time. -/
theorem paced_eq_ok {index : Nat} {a : Unit} (h : paced pause index d w = (.ok a, w')) :
    ∃ t, w' = { w with now := t } := by
  rw [paced] at h
  split at h
  · exact ⟨_, Play.sleep_eq_ok h⟩
  · exact ⟨w.now, (Play.pure_eq_ok_iff.1 h).2⟩

/-- What becomes of the world is what the other steps make of it. -/
theorem continued_world (index : Nat) (rest : List Step) (o : Outcome Step) :
    (continued b tools url pause index rest (.ok o) d w).2 =
      (steps b tools url pause (index + 1) rest d w).2 := by
  change (Play.andThen _ _ d w).2 = _
  rw [Play.andThen]
  rcases steps b tools url pause (index + 1) rest d w with ⟨_ | _ | _, u⟩ <;> rfl

/-- **Replayed steps** are the first step replayed, after a pause that takes nothing but time,
and then the rest. Whatever follows the first step is replayed in the world that it leaves. -/
theorem steps_cons_eq_ok {index : Nat} {s : Step} {rest : List Step} {os : List (Outcome Step)}
    (h : steps b tools url pause index (s :: rest) d w = (.ok (.ok os), w')) :
    ∃ t o os' u, step b tools url index s d { w with now := t } = (.ok (.ok o), u) ∧
      steps b tools url pause (index + 1) rest d u = (.ok (.ok os'), w') ∧ os = o :: os' ∧
      ∀ rest', (steps b tools url pause index (s :: rest') d w).2 =
        (steps b tools url pause (index + 1) rest' d u).2 := by
  rw [steps_cons] at h
  obtain ⟨_, u₀, hpause, h⟩ := Play.bind_eq_ok_iff.1 h
  obtain ⟨r, u, hstep, h⟩ := Play.bind_eq_ok_iff.1 h
  obtain ⟨t, rfl⟩ := paced_eq_ok hpause
  cases r with
  | error e => simp [continued, Play.pure_eq_ok_iff] at h
  | ok o =>
      obtain ⟨_, u', hrest, h⟩ := Play.bind_eq_ok_iff.1 h
      split at h
      · simp [Play.pure_eq_ok_iff] at h
      · next os' =>
        obtain ⟨hos, rfl⟩ := Play.pure_eq_ok_iff.1 h
        cases hos
        refine ⟨t, o, os', u, hstep, hrest, rfl, fun rest' => ?_⟩
        rw [steps_cons, Play.bind_of_ok hpause, Play.bind_of_ok hstep, continued_world]

/-! ### Scenarios -/

/-- A scenario was either replayed to its last step, or kept. -/
theorem scenario_eq_ok {s : Scenario} {r : ScenarioRepair}
    (h : scenario b tools url pause s d w = (.ok r, w')) :
    (∃ os elapsed, steps b tools url pause 0 s.steps d w = (.ok (.ok os), w') ∧
      r = .replayed s os elapsed) ∨
    ∃ reason elapsed, r = .kept s reason elapsed := by
  simp only [scenario, Play.look_bind] at h
  obtain ⟨_, u, hattempt, h⟩ := Play.bind_eq_ok_iff.1 h
  simp only [Play.look_bind] at h
  split at h
  · next os =>
    obtain ⟨rfl, rfl⟩ := Play.pure_eq_ok_iff.1 h
    exact .inl ⟨os, _, Play.attempt_eq_ok_ok_iff.1 hattempt, rfl⟩
  · obtain ⟨rfl, rfl⟩ := Play.pure_eq_ok_iff.1 h
    exact .inr ⟨_, _, rfl⟩
  · obtain ⟨rfl, rfl⟩ := Play.pure_eq_ok_iff.1 h
    exact .inr ⟨_, _, rfl⟩

/-- Replayed scenarios are the first one replayed, and then the rest, in the world that it
leaves. -/
theorem scenarios_cons_eq_ok {s : Scenario} {rest : List Scenario} {rs : List ScenarioRepair}
    (h : scenarios b tools url pause (s :: rest) d w = (.ok rs, w')) :
    ∃ r rs' u, scenario b tools url pause s d w = (.ok r, u) ∧
      scenarios b tools url pause rest d u = (.ok rs', w') ∧ rs = r :: rs' ∧
      ∀ rest', (scenarios b tools url pause (s :: rest') d w).2 =
        (scenarios b tools url pause rest' d u).2 := by
  obtain ⟨r, u, hr, h⟩ := Play.bind_eq_ok_iff.1 h
  obtain ⟨rs', u', hrs, h⟩ := Play.bind_eq_ok_iff.1 h
  obtain ⟨rfl, rfl⟩ := Play.pure_eq_ok_iff.1 h
  refine ⟨r, rs', u, hr, hrs, rfl, fun rest' => ?_⟩
  rw [scenarios, Play.bind_of_ok hr]
  change (Play.andThen _ _ d u).2 = _
  rw [Play.andThen]
  rcases scenarios b tools url pause rest' d u with ⟨_ | _, v⟩ <;> rfl

/-! ### Repairs -/

/-- A repair without a limit that ends has replayed the scenarios in a session that could be
connected, or has kept every scenario. -/
theorem unlimited_eq_ok {all : List Scenario} {report : RepairReport}
    (h : unlimited b tools pause url all d w = (.ok report, w')) :
    (∃ u u' entries, Session.connect b d w = (.ok true, u) ∧
      scenarios b tools url pause all d u = (.ok entries, u') ∧
      Session.disconnect b d u' = (.ok (), w') ∧ report = ⟨true, entries⟩) ∨
    ∃ u reason, Session.connect b d w = (.ok false, u) ∧ report = .passthrough all reason := by
  obtain ⟨connected, u, hc, h⟩ := Play.bind_eq_ok_iff.1 h
  split at h
  · next htrue =>
    subst htrue
    obtain ⟨entries, u', hs, h⟩ := Play.bind_eq_ok_iff.1 h
    obtain ⟨_, u'', hd, h⟩ := Play.bind_eq_ok_iff.1 h
    obtain ⟨rfl, rfl⟩ := Play.pure_eq_ok_iff.1 h
    exact .inl ⟨u, u', entries, hc, hs, hd, rfl⟩
  · next hfalse =>
    obtain rfl : connected = false := Bool.eq_false_iff.2 hfalse
    obtain ⟨_, _, -, h⟩ := Play.bind_eq_ok_iff.1 h
    obtain ⟨rfl, rfl⟩ := Play.pure_eq_ok_iff.1 h
    exact .inr ⟨u, _, hc, rfl⟩

/-- The deadline under which a repair with the given limit runs, if it begins in a world under a
deadline of its own. -/
def deadline (limit outer : Option Nat) (w : World σ) : Option Nat :=
  match limit with
  | some ms => some (w.now + ms)
  | none => outer

/-- A repair that ends is a repair without a limit that ended before the deadline, or has kept
every scenario since the limit was exceeded. -/
theorem within_eq_ok {all : List Scenario} {limit outer : Option Nat} {report : RepairReport}
    (h : within b tools pause url all limit outer w = (.ok report, w')) :
    unlimited b tools pause url all (deadline limit outer w) w = (.ok report, w') ∨
    ∃ ms, limit = some ms ∧ report = .timedOut all ms := by
  cases limit with
  | none => exact .inl h
  | some ms =>
      simp only [within] at h
      split at h
      · obtain ⟨_, _, -, h⟩ := Play.bind_eq_ok_iff.1 h
        obtain ⟨rfl, rfl⟩ := Play.pure_eq_ok_iff.1 h
        exact .inr ⟨ms, rfl, rfl⟩
      · exact .inl h

/-- What a repair does before it closes the session. -/
def replayed (b : Backend σ) (tools : Toolbox) (pause : Nat) (url : String)
    (all : List Scenario) : Play σ RepairReport := do
  if ← Session.connect b then
    let entries ← scenarios b tools url pause all
    return ⟨true, entries⟩
  else
    return .passthrough all "automation backend unavailable"

/-- However a repair goes, closing the session is the last thing it does. -/
theorem unlimited_eq (all : List Scenario) : unlimited b tools pause url all = (do
    let report ← replayed b tools pause url all
    Session.disconnect b
    return report) := by
  rw [replayed, bind_assoc, unlimited]
  congr
  funext connected
  cases connected with
  | true => simp only [if_true, bind_assoc, pure_bind]
  | false => rfl

section

variable {all : List Scenario} {ms : Nat} {outer : Option Nat} {report : RepairReport}

/-- A repair that ends by the limit is the repair without a limit. -/
theorem within_of_ended
    (h : unlimited b tools pause url all (some (w.now + ms)) w = (.ok report, w')) :
    within b tools pause url all (some ms) outer w = (.ok report, w') := by
  simp only [within, h]

/-- A repair that the limit cuts closes the session, and gives every scenario up. -/
theorem within_of_cut
    (h : unlimited b tools pause url all (some (w.now + ms)) w = (.error .cut, w')) :
    within b tools pause url all (some ms) outer w =
      (do Session.disconnect b; return .timedOut all ms : Play σ RepairReport) outer w' := by
  simp only [within, h]

end

/-! ### What all calls have in common -/

section

variable {P : ∀ α : Type, Play σ α → Prop} (hP : Play.Compositional P)
variable (hcall : ∀ tool arguments, P _ (Session.call b tool arguments))

include hP hcall

/-- A property of calls is one of steps on elements. -/
theorem elementStep_of_call (tools : Toolbox) (s : Step) : P _ (elementStep b tools s) := by
  refine hP.ofBind (Session.validateSelector_of_call hP hcall tools s.target) fun v => ?_
  split
  · exact hP.ofPure _
  · refine hP.ofBind (Session.executeStep_of_call hP hcall tools _ _ _) fun r => ?_
    split
    · exact hP.ofPure _
    · exact hP.ofPure _

/-- A property of calls is one of steps. -/
theorem step_of_call (tools : Toolbox) (url : String) (index : Nat) (s : Step) :
    P _ (step b tools url index s) := by
  rcases rule_cases s with ⟨name, hs⟩ | hs | ⟨hs, hroot⟩ | hs
  · rw [step_other hs]
    exact hP.ofPure _
  · rw [step_goto hs]
    exact hP.ofBind (Session.executeStep_of_call hP hcall tools _ _ _) fun _ => hP.ofPure _
  · rw [step_root hs hroot]
    exact hP.ofBind (Session.executeStep_of_call hP hcall tools _ _ _) fun _ => hP.ofPure _
  · rw [step_onElement hs]
    exact elementStep_of_call hP hcall tools s

/-- A property of calls is one of the steps of a scenario. -/
theorem steps_of_call (tools : Toolbox) (url : String) (pause index : Nat) (all : List Step) :
    P _ (steps b tools url pause index all) := by
  induction all generalizing index with
  | nil => exact hP.ofPure _
  | cons s rest ih =>
      rw [steps_cons]
      refine hP.ofBind ?_ fun _ => ?_
      · rw [paced]
        split
        · exact hP.ofSleep pause
        · exact hP.ofPure ()
      · refine hP.ofBind (step_of_call hP hcall tools url index s) fun r => ?_
        cases r with
        | error e => exact hP.ofPure _
        | ok o =>
            refine hP.ofBind (ih (index + 1)) fun r => ?_
            split
            · exact hP.ofPure _
            · exact hP.ofPure _

/-- A property of calls is one of a scenario. -/
theorem scenario_of_call (tools : Toolbox) (url : String) (pause : Nat) (s : Scenario) :
    P _ (scenario b tools url pause s) := by
  refine hP.ofBind hP.ofLook fun before => ?_
  refine hP.ofBind (hP.ofAttempt (steps_of_call hP hcall tools url pause 0 s.steps)) fun r => ?_
  refine hP.ofBind hP.ofLook fun after => ?_
  split <;> exact hP.ofPure _

end

section

variable {P : ∀ α : Type, Play σ α → Prop} (hP : Play.Compositional P)

include hP

/-- A property of single scenarios is one of scenarios one after another. -/
theorem scenarios_of_scenario (hscenario : ∀ s, P _ (scenario b tools url pause s))
    (all : List Scenario) : P _ (scenarios b tools url pause all) := by
  induction all with
  | nil => exact hP.ofPure _
  | cons s rest ih => exact hP.ofBind (hscenario s) fun _ => hP.ofBind ih fun _ => hP.ofPure _

/-- A property of calls is one of scenarios one after another. -/
theorem scenarios_of_call (hcall : ∀ tool arguments, P _ (Session.call b tool arguments))
    (tools : Toolbox) (url : String) (pause : Nat) (all : List Scenario) :
    P _ (scenarios b tools url pause all) :=
  scenarios_of_scenario hP (scenario_of_call hP hcall tools url pause) all

/-- A property of connecting and of the scenarios is one of the replay. -/
theorem replayed_of_scenarios (hconnect : P _ (Session.connect b)) {all : List Scenario}
    (hscenarios : P _ (scenarios b tools url pause all)) :
    P _ (replayed b tools pause url all) := by
  refine hP.ofBind hconnect fun connected => ?_
  split
  · exact hP.ofBind hscenarios fun _ => hP.ofPure _
  · exact hP.ofPure _

/-- A property of the replay and of closing is one of the repair without a limit. -/
theorem unlimited_of_replayed {all : List Scenario}
    (hreplayed : P _ (replayed b tools pause url all))
    (hdisconnect : P _ (Session.disconnect b)) : P _ (unlimited b tools pause url all) := by
  rw [unlimited_eq]
  exact hP.ofBind hreplayed fun _ => hP.ofBind hdisconnect fun _ => hP.ofPure _

end

/-- The steps of a scenario add to the log only. -/
theorem steps_appends (b : Backend σ) (tools : Toolbox) (url : String) (pause index : Nat)
    (all : List Step) : (steps b tools url pause index all).Appends :=
  steps_of_call Play.appends_compositional (Session.call_appends b) tools url pause index all

/-- Scenarios add to the log only. -/
theorem scenarios_appends (b : Backend σ) (tools : Toolbox) (url : String) (pause : Nat)
    (all : List Scenario) : (scenarios b tools url pause all).Appends :=
  scenarios_of_call Play.appends_compositional (Session.call_appends b) tools url pause all

/-! ### A run in which everything happens -/

/-- A scenario with a navigation, a target that can be improved, one that is not found, and an
action that is not recognized. -/
def signIn : Scenario :=
  ⟨"sign-in", "Sign in", [
    ⟨.goto, "https://placeholder.test", none, "Open the page"⟩,
    ⟨.click, "#login", none, "Open the form"⟩,
    ⟨.fill, "#user", some "ada", "Enter the name"⟩,
    ⟨.other "scroll", "#feed", none, "Scroll down"⟩], .empty, none⟩

/-- A scenario with one step. -/
def search : Scenario :=
  ⟨"search", "Search", [⟨.fill, "#q", some "tea", "Search for tea"⟩], .empty, none⟩

/-- The backend navigates, suggests a selector and clicks on it, does not find the next one but
fills it all the same, and panics at the first call of the second scenario. -/
def signInThenPanic : List (Timed CallEnd) := [
  .after 10 (.answered (.ok ⟨false, ""⟩)),
  .after 10 (.answered (.ok ⟨false, " #sign-in "⟩)),
  .after 10 (.answered (.ok ⟨false, ""⟩)),
  .after 10 (.answered (.ok ⟨true, "not found"⟩)),
  .after 10 (.answered (.ok ⟨false, ""⟩)),
  .after 10 (.panicked (some "bug"))]

/-- The repair of both scenarios with this backend. -/
def sampleRun : Except Interrupt RepairReport × World (List (Timed CallEnd)) :=
  within .playback .bySelector 0 "https://x.test" [signIn, search] (some 1000) none
    (.start signInThenPanic)

/-- A course that ends, as evaluation shows by something that is read off its value. -/
theorem exists_ok {α β : Type} (result : Except Interrupt α × World σ) {f : α → β} {v : β}
    (h : result.1.toOption.map f = some v) : ∃ a, result = (.ok a, result.2) ∧ f a = v := by
  rcases result with ⟨_ | a, w⟩
  · simp [Except.toOption] at h
  · exact ⟨a, rfl, by simpa [Except.toOption] using h⟩

/-- The sample run ends, and its report shows what is read off it by evaluation. -/
theorem exists_sampleReport {β : Type} {f : RepairReport → β} {v : β}
    (h : sampleRun.1.toOption.map f = some v) :
    ∃ report, sampleRun = (.ok report, sampleRun.2) ∧ f report = v := exists_ok sampleRun h

end Scenarist.Repair
