import Scenarist.Proofs.Repair.Limit
import Scenarist.Proofs.Repair.Preservation
import Scenarist.Proofs.Repair.Adoption
import Scenarist.Proofs.Session.Loss

/-!
# A Lost Connection Is Contained

A repair connects once. If the connection is lost during one of its scenarios, that scenario is
given up, and nothing but closing is asked for any more. The scenarios before it are those of a
repair that knows nothing of the ones that come after. Of these, only those are given up for which
a tool would have been called: a scenario without steps, or with none whose action is recognized,
can be replayed without a connection. Either way no step is changed.

The proof follows a scenario through the two states in which it can begin. On a connection its
steps track what becomes of it (`steps_tracks`), so a loss is the last thing that is asked for and
stops the scenario. Without one it asks for nothing (`steps_of_not_connected`), which is also why
a loss can only happen in a scenario that began on a connection.

## Main results

* `scenario_of_connected`: a scenario on a connection holds it, or loses it and is given up.
* `scenarios_of_not_connected`: scenarios without a connection.
* `unlimited_loss`: **the loss of the connection is contained**.
-/

namespace Scenarist.Repair

variable {σ : Type} {b : Backend σ} {tools : Toolbox} {url : String} {pause : Nat}
variable {w w' : World σ} {all : List Scenario} {report : RepairReport}

/-! ### On a connection -/

section

variable (b : Backend σ) (tools : Toolbox) (url : String)

theorem executed_tracks {p : Play σ (Except SessionError StepResult)} (hp : p.Tracks)
    (f : StepResult → Outcome Step) : Play.Tracks (do
      let r ← p
      return r.map f : Play σ (Except SessionError (Outcome Step))) :=
  Play.tracks_bind hp (fun _ => rfl) fun r => Play.tracks_ok (f r)

theorem elementStep_tracks (s : Step) : (elementStep b tools s).Tracks := by
  refine Play.tracks_bind (Session.validateSelector_tracks b tools s.target) (fun _ => rfl)
    fun v => ?_
  exact Play.tracks_bind (Session.executeStep_tracks b tools _ _ _) (fun _ => rfl) fun r =>
    Play.tracks_ok _

theorem step_tracks (index : Nat) (s : Step) : (step b tools url index s).Tracks := by
  rcases rule_cases s with ⟨name, hs⟩ | hs | ⟨hs, hroot⟩ | hs
  · rw [step_other hs]
    exact Play.tracks_ok _
  · rw [step_goto hs]
    exact executed_tracks (Session.executeStep_tracks b tools _ _ _) _
  · rw [step_root hs hroot]
    exact executed_tracks (Session.executeStep_tracks b tools _ _ _) _
  · rw [step_onElement hs]
    exact elementStep_tracks b tools s

/-- Without a deadline a pause always ends. -/
theorem paced_of_no_deadline (pause index : Nat) (w : World σ) :
    ∃ t, paced pause index none w = (.ok (), { w with now := t }) := by
  rw [paced]
  split
  · exact ⟨w.now + pause, rfl⟩
  · exact ⟨w.now, rfl⟩

/-- **Steps track the connection** on which their replay begins. -/
theorem steps_tracks (pause index : Nat) (all : List Step) :
    (steps b tools url pause index all).Tracks := by
  induction all generalizing index with
  | nil => exact Play.tracks_ok []
  | cons s rest ih =>
      intro w hw
      obtain ⟨t, hpause⟩ := paced_of_no_deadline pause index w
      have hcontinued (o : Outcome Step) :
          (continued b tools url pause index rest (.ok o)).Tracks :=
        Play.tracks_bind (ih (index + 1)) (fun _ => rfl) fun os => Play.tracks_ok _
      have htracks : (step b tools url index s >>= continued b tools url pause index rest).Tracks :=
        Play.tracks_bind (step_tracks b tools url index s) (fun _ => rfl) hcontinued
      rw [steps_cons, Play.bind_of_ok hpause]
      exact htracks { w with now := t } hw

/-- **A scenario on a connection** holds it, or loses it and is given up. -/
theorem scenario_of_connected (pause : Nat) (hw : w.state = .connected) (s : Scenario) :
    Held w.log (scenario b tools url pause s none w).2 ∨
    (Lost w.log (scenario b tools url pause s none w).2 ∧ ∃ reason elapsed,
      (scenario b tools url pause s none w).1 = .ok (.kept s reason elapsed)) := by
  have htracked := steps_tracks b tools url pause 0 s.steps w hw
  rw [scenario, Play.look_bind]
  rcases hsteps : steps b tools url pause 0 s.steps none w with ⟨(_ | message) | e | os, u⟩
  · rw [hsteps] at htracked
    cases htracked with
    | interrupted _ h =>
        rw [Play.bind_of_error (by rw [Play.attempt, hsteps])]
        exact .inl h
  · rw [hsteps] at htracked
    cases htracked with
    | interrupted _ h =>
        rw [Play.bind_of_ok (by rw [Play.attempt, hsteps])]
        exact .inl h
  · rw [hsteps] at htracked
    cases htracked with
    | lost _ h =>
        rw [Play.bind_of_ok (by rw [Play.attempt, hsteps])]
        exact .inr ⟨h, _, _, rfl⟩
  · rw [hsteps] at htracked
    cases htracked with
    | held _ h =>
        rw [Play.bind_of_ok (by rw [Play.attempt, hsteps])]
        exact .inl h

end

/-! ### Without a connection -/

/-- Without a connection a step is refused, if its action is recognized. -/
theorem step_of_not_connected (hw : w.state ≠ .connected) {s : Step}
    (hs : s.action.isRecognized = true) (index : Nat) (d : Option Nat) :
    step b tools url index s d w = (.ok (.error (.notConnected w.state)), w) := by
  rcases rule_cases s with ⟨name, hother⟩ | hgoto | ⟨hwait, hroot⟩ | helement
  · rw [hother] at hs
    cases hs
  · rw [step_goto hgoto, Play.bind_of_ok (Session.executeStep_of_not_connected b d hw rfl _ _)]
    rfl
  · rw [step_root hwait hroot,
      Play.bind_of_ok (Session.executeStep_of_not_connected b d hw rfl _ _)]
    rfl
  · rw [step_onElement helement, elementStep,
      Play.bind_of_ok (Session.validateSelector_of_not_connected b d hw _)]
    rfl

section

variable (b : Backend σ) (tools : Toolbox) (url : String) (pause : Nat)

/-- **Steps without a connection** ask for nothing. They are all kept as they are, unless one of
their actions is recognized: that step is refused. -/
theorem steps_of_not_connected (hw : w.state ≠ .connected) (index : Nat) (all : List Step) :
    ∃ result t, steps b tools url pause index all none w = (.ok result, { w with now := t }) ∧
      (∀ os, result = .ok os → os.map (·.value) = all) ∧
      ((∃ e, result = .error e) ↔ ∃ s ∈ all, s.action.isRecognized = true) := by
  induction all generalizing index w with
  | nil => exact ⟨.ok [], w.now, rfl, by rintro _ ⟨⟩; rfl, by simp⟩
  | cons s rest ih =>
      obtain ⟨t, hpause⟩ := paced_of_no_deadline pause index w
      have hpaused : ({ w with now := t } : World σ).state ≠ .connected := hw
      rw [steps_cons, Play.bind_of_ok hpause]
      cases hs : s.action.isRecognized with
      | true =>
          rw [Play.bind_of_ok (step_of_not_connected hpaused hs index none)]
          exact ⟨.error _, t, rfl, by rintro _ ⟨⟩, by simp [hs]⟩
      | false =>
          obtain ⟨name, hother⟩ : ∃ name, s.action = .other name := by
            cases ha : s.action with
            | other name => exact ⟨name, rfl⟩
            | _ => simp [ha, Action.isRecognized] at hs
          obtain ⟨result, t', hrest, hvalues, herror⟩ := ih hpaused (index + 1)
          rw [step_other hother, pure_bind, continued, Play.bind_of_ok hrest]
          cases result with
          | error e => exact ⟨.error e, t', rfl, by rintro _ ⟨⟩, by simpa [hs] using herror⟩
          | ok os =>
              refine ⟨.ok _, t', rfl, ?_, by simpa [hs] using herror⟩
              rintro _ ⟨⟩
              rw [List.map_cons, hvalues os rfl]
              rfl

/-- What is reported of a scenario that came when the connection **was gone**. -/
structure AfterLoss (s : Scenario) (r : ScenarioRepair) : Prop where
  steps : r.scenario.steps = s.steps
  /-- It is given up exactly if a tool would have been called for it. -/
  degraded_iff : r.outcome.isDegraded = true ↔ ∃ t ∈ s.steps, t.action.isRecognized = true

theorem scenario_of_not_connected (hw : w.state ≠ .connected) (s : Scenario) :
    ∃ r t, scenario b tools url pause s none w = (.ok r, { w with now := t }) ∧
      AfterLoss s r := by
  obtain ⟨result, t, hsteps, hvalues, herror⟩ :=
    steps_of_not_connected b tools url pause hw 0 s.steps
  rw [scenario, Play.look_bind, Play.bind_of_ok (by rw [Play.attempt, hsteps])]
  cases result with
  | error e => exact ⟨_, t, rfl, rfl, by simp [← herror, ScenarioRepair.kept, Outcome.isDegraded]⟩
  | ok os =>
      refine ⟨_, t, rfl, hvalues os rfl, ?_⟩
      simp [← herror, ScenarioRepair.replayed, Outcome.isDegraded]

/-- **Scenarios without a connection** ask for nothing. -/
theorem scenarios_of_not_connected (hw : w.state ≠ .connected) (all : List Scenario) :
    ∃ rs t, scenarios b tools url pause all none w = (.ok rs, { w with now := t }) ∧
      List.Forall₂ AfterLoss all rs := by
  induction all generalizing w with
  | nil => exact ⟨[], w.now, rfl, .nil⟩
  | cons s rest ih =>
      obtain ⟨r, t, hscenario, hr⟩ := scenario_of_not_connected b tools url pause hw s
      obtain ⟨rs, t', hrest, hrs⟩ := ih (w := { w with now := t }) hw
      rw [scenarios, Play.bind_of_ok hscenario, Play.bind_of_ok hrest]
      exact ⟨r :: rs, t', rfl, .cons hr hrs⟩

end

/-! ### The scenario in which the connection is lost -/

theorem scenarios_append (xs ys : List Scenario) :
    scenarios b tools url pause (xs ++ ys) = (do
      let rs ← scenarios b tools url pause xs
      let rs' ← scenarios b tools url pause ys
      return rs ++ rs') := by
  induction xs with
  | nil => simp [scenarios]
  | cons s rest ih => simp [scenarios, ih]

section

variable (b : Backend σ) (tools : Toolbox) (url : String) (pause : Nat) (d : Option Nat)

/-- The calls that are made for the scenario at a place: what its replay adds to the log. -/
def callsOfScenario (all : List Scenario) (place : Nat) (w : World σ) : List Event :=
  (afterScenarios b tools url pause d all (place + 1) w).log.drop
    (afterScenarios b tools url pause d all place w).log.length

end

/-- For a scenario to have made a call, there has to be one, and those before it have to have come
to their end. -/
theorem exists_of_callsOfScenario {d : Option Nat} {u : World σ} {k : Nat}
    (h : callsOfScenario b tools url pause d all k u ≠ []) :
    ∃ s rs v, all[k]? = some s ∧ scenarios b tools url pause (all.take k) d u = (.ok rs, v) ∧
      afterScenarios b tools url pause d all k u = v ∧
      afterScenarios b tools url pause d all (k + 1) u =
        (scenario b tools url pause s d v).2 := by
  have hsame (hworld : afterScenarios b tools url pause d all (k + 1) u =
      afterScenarios b tools url pause d all k u) : False := by
    rw [callsOfScenario, hworld, List.drop_length] at h
    exact h rfl
  by_cases hk : k < all.length
  · have htake : all.take (k + 1) = all.take k ++ [all[k]] := List.take_succ_eq_append_getElem hk
    rcases hrun : scenarios b tools url pause (all.take k) d u with ⟨i | rs, v⟩
    · refine (hsame ?_).elim
      rw [afterScenarios, afterScenarios, htake, scenarios_append, Play.bind_of_error hrun, hrun]
    · refine ⟨all[k], rs, v, List.getElem?_eq_getElem hk, rfl, by rw [afterScenarios, hrun], ?_⟩
      rw [afterScenarios, htake, scenarios_append, Play.bind_of_ok hrun,
        Play.bind_world fun _ _ _ => rfl]
      exact Play.bind_world (fun _ _ _ => rfl) d v
  · refine (hsame ?_).elim
    rw [afterScenarios, afterScenarios, List.take_of_length_le (by omega),
      List.take_of_length_le (by omega)]

/-- **The scenario in which the connection is lost** began on it, and is given up. -/
theorem exists_lost {u : World σ} {k : Nat} {made later : List Event} {loss : Event}
    (hcalls : callsOfScenario b tools url pause none all k u = made ++ loss :: later)
    (hloss : loss.isLoss = true) :
    ∃ s rs v reason elapsed v', all[k]? = some s ∧
      scenarios b tools url pause (all.take k) none u = (.ok rs, v) ∧
      afterScenarios b tools url pause none all k u = v ∧
      scenario b tools url pause s none v = (.ok (.kept s reason elapsed), v') ∧
      v'.state ≠ .connected ∧ v'.log = v.log ++ (made ++ [loss]) := by
  have hne : callsOfScenario b tools url pause none all k u ≠ [] := by simp [hcalls]
  obtain ⟨s, rs, v, hs, hrun, hbefore, hafter⟩ := exists_of_callsOfScenario hne
  rw [callsOfScenario, hafter, hbefore] at hcalls
  by_cases hv : v.state = .connected
  · rcases scenario_of_connected b tools url pause hv s with
      hheld | ⟨hlost, reason, elapsed, hkept⟩
    · obtain ⟨asked, hlog, hasked⟩ := hheld.asked
      rw [hlog, List.drop_left] at hcalls
      have hnot := hasked loss (by simp [hcalls])
      rw [hloss] at hnot
      cases hnot
    · obtain ⟨asked, last, hlog, hasked, -⟩ := hlost.asked
      rw [hlog, List.drop_left] at hcalls
      obtain ⟨rfl, rfl, -⟩ := eq_of_lossless hasked hloss hcalls
      refine ⟨s, rs, v, reason, elapsed, (scenario b tools url pause s none v).2, hs, hrun, hbefore,
        Prod.ext hkept rfl, ?_, hlog⟩
      rw [hlost.state]
      decide
  · obtain ⟨r, t, hscenario, -⟩ := scenario_of_not_connected b tools url pause hv s
    rw [hscenario] at hcalls
    simp at hcalls

/-! ### The repair as a whole -/

/-- The repair comes to its end, or else the backend never comes back from closing. -/
def EndsOrCloses (result : Except Interrupt RepairReport × World σ) : Prop :=
  (∃ report, result.1 = .ok report) ∨ ∃ at_, result.2.log.getLast? = some (.close at_ .never)

/-- A repair that has connected and replayed its scenarios closes the session. -/
theorem unlimited_of_scenarios_ok {d : Option Nat} {u v : World σ} {entries : List ScenarioRepair}
    (hconnect : Session.connect b d w = (.ok true, u))
    (hall : scenarios b tools url pause all d u = (.ok entries, v)) :
    unlimited b tools pause url all d w =
      (do Session.disconnect b; return ⟨true, entries⟩ : Play σ RepairReport) d v := by
  rw [unlimited, Play.bind_of_ok hconnect, if_pos rfl, Play.bind_of_ok hall]

/-- Without a deadline, closing is all that is asked for then, and only a close that never comes
back keeps the repair from ending. -/
theorem closing_ends (report : RepairReport) (v : World σ) :
    EndsOrCloses ((do Session.disconnect b; return report : Play σ RepairReport) none v) ∧
    ∃ closing, ((do Session.disconnect b; return report : Play σ RepairReport) none v).2.log =
      v.log ++ closing ∧ ∀ e ∈ closing, e.kind = .close := by
  constructor
  · rcases disconnect_closed_or_never (b := b) v with ⟨w', hends, -⟩ | ⟨w', at_, hcut, hlast⟩
    · rw [Play.bind_of_ok hends]
      exact .inl ⟨report, rfl⟩
    · rw [Play.bind_of_error hcut]
      exact .inr ⟨at_, hlast⟩
  · obtain ⟨closing, hlog, hkind⟩ := Session.disconnect_log b none v
    exact ⟨closing, by rw [Play.bind_log fun _ _ _ => rfl, hlog], hkind⟩

/-- What a repair reports in which the connection was lost during the scenario at place `k`. -/
structure LossReported (all : List Scenario) (k : Nat) (report : RepairReport) : Prop where
  /-- That scenario is given up and goes on as it was. -/
  lost : ∃ s r, all[k]? = some s ∧ report.entries[k]? = some r ∧
    r.outcome.isDegraded = true ∧ r.scenario = s
  /-- The ones after it keep their steps, and are given up if a tool was needed. -/
  later : List.Forall₂ AfterLoss (all.drop (k + 1)) (report.entries.drop (k + 1))
  failed : report.validationSucceeded = false

/-- **The loss of the connection is contained**, when `asked` is all that was asked for by then. -/
structure LossContained (b : Backend σ) (tools : Toolbox) (pause : Nat) (url : String)
    (all : List Scenario) (k : Nat) (w : World σ) (asked : List Event) : Prop where
  /-- Nothing is asked for any more, but to close. -/
  quiet : ∃ closing, (unlimited b tools pause url all none w).2.log = asked ++ closing ∧
    ∀ e ∈ closing, e.kind = .close
  ends : EndsOrCloses (unlimited b tools pause url all none w)
  reported : ∀ report w', unlimited b tools pause url all none w = (.ok report, w') →
    LossReported all k report
  /-- The scenarios before it are reported as by a repair of these alone. -/
  before : EndsOrCloses (unlimited b tools pause url (all.take k) none w) ∧
    ∀ first v report w', unlimited b tools pause url (all.take k) none w = (.ok first, v) →
      unlimited b tools pause url all none w = (.ok report, w') →
      first.entries = report.entries.take k

/-- A report is the one that a repair has closed the session with. -/
theorem eq_of_closing_ok {v : World σ} {r : RepairReport}
    (h : (do Session.disconnect b; return r : Play σ RepairReport) none v = (.ok report, w')) :
    report = r := by
  obtain ⟨_, _, -, h⟩ := Play.bind_eq_ok_iff.1 h
  exact (Play.pure_eq_ok_iff.1 h).1

theorem lossReported {k : Nat} {s : Scenario} {rs rs' : List ScenarioRepair} {reason : String}
    {elapsed : Nat} (hs : all[k]? = some s) (hlength : rs.length = k)
    (hlater : List.Forall₂ AfterLoss (all.drop (k + 1)) rs') :
    LossReported all k ⟨true, rs ++ .kept s reason elapsed :: rs'⟩ where
  lost := ⟨s, .kept s reason elapsed, hs, by simp [← hlength], rfl, rfl⟩
  later := by
    simp only [← hlength] at hlater ⊢
    have hnone : rs.drop (rs.length + 1) = [] := List.drop_of_length_le (Nat.le_succ _)
    simpa [List.drop_append, hnone] using hlater
  failed := by
    have hone :
        (RepairReport.mk true (rs ++ .kept s reason elapsed :: rs')).degradedScenarios ≠ 0 :=
      fun h => List.countP_eq_zero.1 h (.kept s reason elapsed) (by simp) rfl
    simp [RepairReport.validationSucceeded, hone]

/-- **The loss of the connection is contained.** Suppose that the session could be connected, and
that among the calls made for the scenario at place `k` there is one that ends in the loss of the
connection. Then nothing but closing is asked for after it, that scenario is given up, the ones
after it keep their steps and are given up exactly if they have a step whose action is recognized,
the ones before it are not affected, and the repair does not claim success. -/
theorem unlimited_loss {u : World σ} {k : Nat} {made later : List Event} {loss : Event}
    (hconnect : Session.connect b none w = (.ok true, u))
    (hcalls : callsOfScenario b tools url pause none all k u = made ++ loss :: later)
    (hloss : loss.isLoss = true) :
    LossContained b tools pause url all k w
      ((afterScenarios b tools url pause none all k u).log ++ (made ++ [loss])) := by
  obtain ⟨s, rs, v, reason, elapsed, v', hs, hbefore, hworld, hscenario, hgone, hlog⟩ :=
    exists_lost hcalls hloss
  obtain ⟨rs', t, hlater, hentries⟩ :=
    scenarios_of_not_connected b tools url pause hgone (all.drop (k + 1))
  have hall : scenarios b tools url pause all none u =
      (.ok (rs ++ .kept s reason elapsed :: rs'), { v' with now := t }) := by
    have hsplit : all = all.take k ++ s :: all.drop (k + 1) := by
      obtain ⟨hk, rfl⟩ := List.getElem?_eq_some_iff.1 hs
      rw [List.getElem_cons_drop, List.take_append_drop]
    rw [hsplit, scenarios_append, Play.bind_of_ok hbefore, scenarios, bind_assoc,
      Play.bind_of_ok hscenario, bind_assoc, Play.bind_of_ok hlater]
    rfl
  have hlength : rs.length = k := by
    rw [← (scenarios_entries hbefore).length_eq, List.length_take]
    have := (List.getElem?_eq_some_iff.1 hs).1
    omega
  have hfull := unlimited_of_scenarios_ok hconnect hall
  have hfirst := unlimited_of_scenarios_ok hconnect hbefore
  obtain ⟨hends, closing, hclosing, hkind⟩ := closing_ends (b := b)
    ⟨true, rs ++ .kept s reason elapsed :: rs'⟩ { v' with now := t }
  rw [← hfull] at hends hclosing
  refine ⟨⟨closing, ?_, hkind⟩, hends, fun report w' h => ?_, ?_, fun first x report w' h h' => ?_⟩
  · rw [hclosing, hlog, hworld]
  · rw [hfull] at h
    rw [eq_of_closing_ok h]
    exact lossReported hs hlength hentries
  · rw [hfirst]
    exact (closing_ends _ _).1
  · rw [hfirst] at h
    rw [hfull] at h'
    rw [eq_of_closing_ok h, eq_of_closing_ok h', ← hlength, List.take_left]

/-- Five scenarios: one that is replayed, one during which the connection is lost, and then one
without steps, one whose only action is not recognized, and one that needs a tool. -/
def chores : List Scenario := [search, signIn,
  ⟨"idle", "Do nothing", [], .empty, none⟩,
  ⟨"scroll", "Scroll", [⟨.other "scroll", "#feed", none, "Scroll down"⟩], .empty, none⟩, search]

/-- The backend answers three calls, and is gone at the fourth. -/
def answersThenGone : List (Timed CallEnd) := [
  .after 10 (.answered (.ok ⟨false, ""⟩)),
  .after 10 (.answered (.ok ⟨false, ""⟩)),
  .after 10 (.answered (.ok ⟨false, ""⟩)),
  .after 10 (.answered (.error (.io "broken pipe")))]

/-- The repair of the first `count` of these scenarios with this backend. -/
def choresRun (count : Nat) : Except Interrupt RepairReport × World (List (Timed CallEnd)) :=
  unlimited .playback .bySelector 0 "https://x.test" (chores.take count) none
    (.start answersThenGone)

/-- The second scenario loses the connection with its second call. Of the three after it, only the
one that needs a tool is given up. -/
theorem unlimited_loss_chores :
    ∃ u e loss report, Session.connect .playback none (.start answersThenGone) = (.ok true, u) ∧
      callsOfScenario .playback .bySelector "https://x.test" 0 none chores 1 u = [e, loss] ∧
      loss.isLoss = true ∧ choresRun 5 = (.ok report, (choresRun 5).2) ∧
      report.entries.map (·.outcome.isDegraded) = [false, true, false, false, true] ∧
      (choresRun 5).2.log.map (·.kind) = [.connect, .call, .call, .call, .call, .close] ∧
      LossReported chores 1 report := by
  have hconnect : Session.connect .playback none (.start answersThenGone) =
      (.ok true, (Session.connect .playback none (.start answersThenGone)).2) := rfl
  have hcalls : (callsOfScenario .playback .bySelector "https://x.test" 0 none chores 1
      (Session.connect .playback none (.start answersThenGone)).2).map (·.isLoss) =
        [false, true] := by decide +kernel
  obtain ⟨e, rest, hcons, -, hrest⟩ := List.map_eq_cons_iff.1 hcalls
  obtain ⟨loss, _, rfl, hloss, hnil⟩ := List.map_eq_cons_iff.1 hrest
  obtain rfl := List.map_eq_nil_iff.1 hnil
  obtain ⟨report, hrun, hdegraded⟩ := exists_ok (choresRun 5)
    (f := fun r => r.entries.map (·.outcome.isDegraded))
    (v := [false, true, false, false, true]) (by decide +kernel)
  have hsplit : callsOfScenario .playback .bySelector "https://x.test" 0 none chores 1
      (Session.connect .playback none (.start answersThenGone)).2 = [e] ++ loss :: [] := hcons
  have hcontained := unlimited_loss hconnect hsplit hloss
  exact ⟨_, e, loss, report, hconnect, hcons, hloss, hrun, hdegraded, by decide +kernel,
    hcontained.reported _ _ hrun⟩

end Scenarist.Repair
