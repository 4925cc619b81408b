import Scenarist.Proofs.Repair.Adoption
import Scenarist.Proofs.Repair.Limit
import Scenarist.Proofs.Repair.Preservation

/-!
# What a Report Claims

A report claims two things about the repair as a whole: that there was a connection, and that the
validation succeeded. Here both claims are measured against what happened. The yardstick is the
connect of the very repair, and the replay of each scenario in the world that the scenarios before
it leave.

Without a limit, or if the limit is not exceeded, the report is right: it claims a connection
exactly if connecting succeeded, and success exactly if moreover every scenario was replayed to
its last step. A report of an exceeded limit always claims a connection, also if the limit
expired while the session was still connecting, or was closing after connecting had failed. And
since success only means that no scenario was given up, such a report claims success whenever
there are no scenarios.

## Main results

* `scenario_isOk_iff`: an entry is a success exactly if the scenario was replayed to its last
  step.
* `unlimited_verdict`: a report of a repair without a limit is right.
* `within_givenUp_iff`: when every scenario is given up.
* `within_verdict`: **what a report claims**, with and without a limit.
-/

namespace Scenarist.Repair

variable {σ : Type} {b : Backend σ} {tools : Toolbox} {url : String} {pause : Nat}
variable {d : Option Nat} {w w' : World σ} {all : List Scenario} {report : RepairReport}

/-! ### Scenarios that were replayed -/

/-- The scenario was **replayed to its last step** by the deadline: all its steps were replayed,
and each has an outcome. -/
def ReplayedWhole (b : Backend σ) (tools : Toolbox) (url : String) (pause : Nat) (d : Option Nat)
    (s : Scenario) (w w' : World σ) : Prop :=
  ∃ os, steps b tools url pause 0 s.steps d w = (.ok (.ok os), w') ∧
    os.length = s.steps.length ∧ Due d w'

/-- Each of the scenarios was replayed to its last step, in the world that the ones before it
leave. -/
def AllReplayed (b : Backend σ) (tools : Toolbox) (url : String) (pause : Nat) (d : Option Nat)
    (all : List Scenario) (w : World σ) : Prop :=
  ∀ (k : Nat) (s : Scenario), all[k]? = some s →
    ReplayedWhole b tools url pause d s (afterScenarios b tools url pause d all k w)
      (afterScenarios b tools url pause d all (k + 1) w)

/-- None of the scenarios was replayed to its last step. -/
def NoneReplayed (b : Backend σ) (tools : Toolbox) (url : String) (pause : Nat) (d : Option Nat)
    (all : List Scenario) (w : World σ) : Prop :=
  ∀ (k : Nat) (s : Scenario), all[k]? = some s →
    ¬ ReplayedWhole b tools url pause d s (afterScenarios b tools url pause d all k w)
      (afterScenarios b tools url pause d all (k + 1) w)

/-- A scenario whose steps were all replayed has the entry of one that was replayed. -/
theorem scenario_of_steps_ok {s : Scenario} {os : List (Outcome Step)}
    (h : steps b tools url pause 0 s.steps d w = (.ok (.ok os), w')) :
    scenario b tools url pause s d w = (.ok (.replayed s os (w'.now - w.now)), w') := by
  rw [scenario, Play.look_bind, Play.bind_of_ok (Play.attempt_eq_ok_ok_iff.2 h)]
  rfl

theorem steps_due (hw : Due d w) (index : Nat) (all : List Step) :
    Due d (steps b tools url pause index all d w).2 :=
  (steps_of_call Play.timely_compositional (Session.call_timely b) tools url pause index all).due hw

theorem afterScenarios_due (hw : Due d w) (k : Nat) :
    Due d (afterScenarios b tools url pause d all k w) :=
  (scenarios_of_call Play.timely_compositional (Session.call_timely b) tools url pause _).due hw

/-- **The entry of a scenario is a success** exactly if the scenario was replayed to its last
step. -/
theorem scenario_isOk_iff {s : Scenario} {r : ScenarioRepair} (hw : Due d w)
    (h : scenario b tools url pause s d w = (.ok r, w')) :
    r.outcome.isOk = true ↔ ReplayedWhole b tools url pause d s w w' := by
  constructor
  · intro hok
    obtain ⟨os, elapsed, hsteps, -⟩ := replayed_of_isOk h hok
    have hdue : Due d (steps b tools url pause 0 s.steps d w).2 := steps_due hw 0 s.steps
    rw [hsteps] at hdue
    exact ⟨os, hsteps, (steps_outcomes hsteps).length_eq.symm, hdue⟩
  · rintro ⟨os, hsteps, -, -⟩
    rw [scenario_of_steps_ok hsteps] at h
    cases h
    rfl

theorem isOk_iff_isDegraded {α : Type} {o : Outcome α} :
    o.isOk = true ↔ o.isDegraded = false := by
  cases o <;> simp [Outcome.isOk, Outcome.isDegraded]

/-- What holds of all entries as far as they are a success or not holds of the replays of their
scenarios. -/
theorem forall_entries_iff {entries : List ScenarioRepair} (Q : Prop → Prop) (hw : Due d w)
    (h : scenarios b tools url pause all d w = (.ok entries, w')) :
    (∀ r ∈ entries, Q (r.outcome.isOk = true)) ↔
      ∀ (k : Nat) (s : Scenario), all[k]? = some s →
        Q (ReplayedWhole b tools url pause d s (afterScenarios b tools url pause d all k w)
          (afterScenarios b tools url pause d all (k + 1) w)) := by
  have hentry {k s} (hs : all[k]? = some s) : ∃ r, entries[k]? = some r ∧
      (r.outcome.isOk = true ↔
        ReplayedWhole b tools url pause d s (afterScenarios b tools url pause d all k w)
          (afterScenarios b tools url pause d all (k + 1) w)) := by
    obtain ⟨r, hr, hscenario⟩ := scenarios_at h hs
    exact ⟨r, hr, scenario_isOk_iff (afterScenarios_due hw k) hscenario⟩
  constructor
  · intro hall k s hs
    obtain ⟨r, hr, hiff⟩ := hentry hs
    rw [← hiff]
    exact hall r (List.mem_of_getElem? hr)
  · intro hall r hr
    obtain ⟨k, hk⟩ := List.mem_iff_getElem?.1 hr
    obtain ⟨s, hs, -⟩ := exists_getElem?_of_forall₂ (scenarios_entries h) hk
    obtain ⟨r', hr', hiff⟩ := hentry hs
    obtain rfl : r' = r := Option.some.inj (hr'.symm.trans hk)
    rw [hiff]
    exact hall k s hs

/-- No entry is one of a scenario given up exactly if all scenarios were replayed. -/
theorem degradedScenarios_eq_zero_iff {entries : List ScenarioRepair} {connected : Bool}
    (hw : Due d w) (h : scenarios b tools url pause all d w = (.ok entries, w')) :
    (RepairReport.mk connected entries).degradedScenarios = 0 ↔
      AllReplayed b tools url pause d all w := by
  refine Iff.trans ?_ (forall_entries_iff id hw h)
  rw [RepairReport.degradedScenarios, List.countP_eq_zero]
  simp [isOk_iff_isDegraded]

/-! ### Scenarios that were given up -/

/-- Every scenario of the report was **given up**. -/
def GivenUp (report : RepairReport) : Prop :=
  ∀ r ∈ report.entries, r.outcome.isDegraded = true

theorem givenUp_kept (connected : Bool) (all : List Scenario) (reason : String) (elapsed : Nat) :
    GivenUp ⟨connected, all.map (.kept · reason elapsed)⟩ := by
  intro r hr
  obtain ⟨s, -, rfl⟩ := List.mem_map.1 hr
  rfl

/-- Such a report claims success only if there are no scenarios. -/
theorem validationSucceeded_of_givenUp (h : GivenUp report) :
    report.validationSucceeded = true ↔ report.connected = true ∧ report.entries = [] := by
  have hall : report.degradedScenarios = report.entries.length := List.countP_eq_length.2 h
  rw [RepairReport.validationSucceeded, hall, Bool.and_eq_true, beq_iff_eq,
    List.length_eq_zero_iff]

/-- Every scenario of a replay was given up exactly if none was replayed to its last step. -/
theorem givenUp_iff {entries : List ScenarioRepair} {connected : Bool} (hw : Due d w)
    (h : scenarios b tools url pause all d w = (.ok entries, w')) :
    GivenUp ⟨connected, entries⟩ ↔ NoneReplayed b tools url pause d all w := by
  refine Iff.trans ?_ (forall_entries_iff Not hw h)
  simp [GivenUp, isOk_iff_isDegraded]

/-! ### Repairs -/

/-- **A repair without a limit reports what happened**: a connection exactly if connecting
succeeded, and success exactly if every scenario was replayed as well. -/
theorem unlimited_verdict (hw : Due d w)
    (h : unlimited b tools pause url all d w = (.ok report, w')) :
    (report.connected = true ↔ (Session.connect b d w).1 = .ok true) ∧
    (report.validationSucceeded = true ↔ (Session.connect b d w).1 = .ok true ∧
      AllReplayed b tools url pause d all (Session.connect b d w).2) := by
  have hdue : Due d (Session.connect b d w).2 := (Session.connect_timely b).due hw
  rcases unlimited_eq_ok h with ⟨u, _, entries, hconnect, hall, -, rfl⟩ | ⟨u, reason, hconnect, rfl⟩
  · rw [hconnect] at hdue ⊢
    refine ⟨by simp, ?_⟩
    rw [RepairReport.validationSucceeded, Bool.true_and, beq_iff_eq,
      degradedScenarios_eq_zero_iff hdue hall]
    simp
  · rw [hconnect]
    simp [RepairReport.passthrough, RepairReport.validationSucceeded]

/-- A repair without a limit gives every scenario up if the session could not be connected, or if
none was replayed to its last step. -/
theorem unlimited_givenUp_iff (hw : Due d w)
    (h : unlimited b tools pause url all d w = (.ok report, w')) :
    GivenUp report ↔ (Session.connect b d w).1 = .ok true →
      NoneReplayed b tools url pause d all (Session.connect b d w).2 := by
  have hdue : Due d (Session.connect b d w).2 := (Session.connect_timely b).due hw
  rcases unlimited_eq_ok h with ⟨u, _, entries, hconnect, hall, -, rfl⟩ | ⟨u, reason, hconnect, rfl⟩
  · rw [hconnect] at hdue ⊢
    simp [givenUp_iff hdue hall]
  · have hgivenUp : GivenUp (.passthrough all reason) := givenUp_kept false all reason 0
    simp [hconnect, hgivenUp]

/-- The limit **expires** before the repair without it comes to its end. -/
def Expires (b : Backend σ) (tools : Toolbox) (pause : Nat) (url : String) (all : List Scenario)
    (limit : Option Nat) (w : World σ) : Prop :=
  ∃ ms, limit = some ms ∧ ∀ t, Play.duration? (unlimited b tools pause url all) w = some t → ms < t

/-- A limit is not exceeded from the start. -/
theorem due_deadline (limit : Option Nat) (w : World σ) : Due (deadline limit none w) w := by
  cases limit with
  | none => exact due_none w
  | some ms => exact due_some.2 (Nat.le_add_right _ _)

/-- A repair whose limit does not expire is the repair without it. Otherwise every scenario is
given up. -/
theorem within_cases {limit : Option Nat}
    (h : within b tools pause url all limit none w = (.ok report, w')) :
    (¬ Expires b tools pause url all limit w ∧
      unlimited b tools pause url all (deadline limit none w) w = (.ok report, w')) ∨
    ∃ ms, Expires b tools pause url all limit w ∧ report = .timedOut all ms := by
  cases limit with
  | none => exact .inl ⟨by rintro ⟨_, ⟨⟩, -⟩, h⟩
  | some ms =>
      have hcut := (unlimited_timely b tools pause url all).cut_iff
        (unlimited_calm b tools pause url all) ms w
      rcases hrun : unlimited b tools pause url all (some (w.now + ms)) w with
        ⟨(_ | message) | r, v⟩
      · rw [hrun] at hcut
        rw [within_of_cut hrun] at h
        obtain ⟨_, u, -, h⟩ := Play.bind_eq_ok_iff.1 h
        obtain ⟨rfl, -⟩ := Play.pure_eq_ok_iff.1 h
        exact .inr ⟨ms, ⟨ms, rfl, hcut.1 rfl⟩, rfl⟩
      · exact absurd (by rw [hrun]) (unlimited_calm b tools pause url all _ w message)
      · rw [hrun] at hcut
        rw [within_of_ended hrun] at h
        refine .inl ⟨?_, hrun.trans h⟩
        rintro ⟨_, ⟨⟩, hexpires⟩
        cases hcut.2 hexpires

/-- **When every scenario is given up**: if the limit expires, if the session cannot be connected,
or if the replay of each scenario was interrupted, for whatever reason. -/
theorem within_givenUp_iff {limit : Option Nat}
    (h : within b tools pause url all limit none w = (.ok report, w')) :
    let d := deadline limit none w
    GivenUp report ↔ Expires b tools pause url all limit w ∨
      ((Session.connect b d w).1 = .ok true →
        NoneReplayed b tools url pause d all (Session.connect b d w).2) := by
  intro d
  rcases within_cases h with ⟨hin, h⟩ | ⟨ms, hexpired, rfl⟩
  · rw [unlimited_givenUp_iff (due_deadline limit w) h]
    simp [hin, d]
  · have hgivenUp : GivenUp (.timedOut all ms) := givenUp_kept true all _ ms
    simp [hexpired, hgivenUp]

/-- **What a report claims.** It claims a connection exactly if the session could be connected
during the repair, or the limit expired. It claims success exactly if the limit did not expire,
the session could be connected, and by then every scenario was replayed to its last step; or if
the limit expired and there are no scenarios. -/
theorem within_verdict {limit : Option Nat}
    (h : within b tools pause url all limit none w = (.ok report, w')) :
    let d := deadline limit none w
    (report.connected = true ↔
      (Session.connect b d w).1 = .ok true ∨ Expires b tools pause url all limit w) ∧
    (report.validationSucceeded = true ↔
      (¬ Expires b tools pause url all limit w ∧ (Session.connect b d w).1 = .ok true ∧
        AllReplayed b tools url pause d all (Session.connect b d w).2) ∨
      (Expires b tools pause url all limit w ∧ all = [])) := by
  intro d
  rcases within_cases h with ⟨hin, h⟩ | ⟨ms, hexpired, rfl⟩
  · obtain ⟨hconnected, hsucceeded⟩ := unlimited_verdict (due_deadline limit w) h
    exact ⟨by simp [hconnected, hin, d], by simp [hsucceeded, hin, d]⟩
  · refine ⟨by simp [RepairReport.timedOut, hexpired], ?_⟩
    rw [RepairReport.timedOut, validationSucceeded_of_givenUp (givenUp_kept true all _ ms)]
    simp [hexpired]

/-- A backend that never answers a connect. -/
def unanswering : Backend Unit where
  connect _ := ((), .never)
  call _ _ _ := ((), .never)
  close _ := ((), .after 0 ())

/-- A repair with this backend within 100 milliseconds. -/
def unansweredRun (all : List Scenario) : Except Interrupt RepairReport × World Unit :=
  within unanswering .bySelector 0 "https://x.test" all (some 100) none (.start ())

/-- The limit expires while the session is connecting. All the same the report claims a
connection, and if there are no scenarios it claims success. -/
theorem within_verdict_unanswered :
    (Session.connect unanswering (some 100) (.start ())).1 = .error .cut ∧
    (∃ report w, unansweredRun [] = (.ok report, w) ∧ report.connected = true ∧
      report.validationSucceeded = true) ∧
    ∃ report w, unansweredRun [search] = (.ok report, w) ∧ report.connected = true ∧
      report.validationSucceeded = false := by
  have hcut : (Session.connect unanswering (some 100) (.start ())).1 = .error .cut := rfl
  have hempty : unansweredRun [] = (.ok (.timedOut [] 100), (unansweredRun []).2) := rfl
  have hsearch : unansweredRun [search] =
      (.ok (.timedOut [search] 100), (unansweredRun [search]).2) := rfl
  obtain ⟨hconnected, hsucceeded⟩ := within_verdict hempty
  obtain ⟨-, hsucceeded'⟩ := within_verdict hsearch
  have hexpires : Expires unanswering .bySelector 0 "https://x.test" [] (some 100) (.start ()) := by
    refine (hconnected.1 rfl).resolve_left ?_
    change (Session.connect unanswering (some 100) (.start ())).1 ≠ _
    simp [hcut]
  refine ⟨hcut, ⟨_, _, hempty, hconnected.2 (.inr hexpires),
    hsucceeded.2 (.inr ⟨hexpires, rfl⟩)⟩, _, _, hsearch, rfl, Bool.eq_false_iff.2 fun h => ?_⟩
  rcases hsucceeded'.1 h with ⟨-, hconnect, -⟩ | ⟨-, hnone⟩
  · change (Session.connect unanswering (some 100) (.start ())).1 = _ at hconnect
    simp [hcut] at hconnect
  · simp at hnone

end Scenarist.Repair
