import Scenarist.Proofs.Session.Deadline
import Scenarist.Proofs.Repair.Run

/-!
# A Repair Within a Limit

A limit decides between two outcomes. A repair that would take less time than the limit is the
same with it as without it: the same report, the same requests, the same world at the end. One
that would take more, or would never end, is given up as a whole. Nothing of what was found out
by then is reported, no tool is called after the limit, and all that is left to do is to close
the session.

That there is nothing in between is a property of every course of events (`Play.Timely`), and a
repair has it since its parts have it.

## Main results

* `unlimited_timely`, `unlimited_calm`: a repair without a limit is timely and never panics.
* `within_limit`: **a limit keeps the report or gives up every scenario**.
-/

namespace Scenarist.Repair

variable {σ : Type}

/-! ### Repairs without a limit -/

section

variable (b : Backend σ) (tools : Toolbox) (pause : Nat) (url : String)

/-- A replay is timely. -/
theorem replayed_timely (all : List Scenario) : (replayed b tools pause url all).Timely :=
  replayed_of_scenarios Play.timely_compositional (Session.connect_timely b)
    (scenarios_of_call Play.timely_compositional (Session.call_timely b) tools url pause all)

/-- A repair without a limit is timely. -/
theorem unlimited_timely (all : List Scenario) : (unlimited b tools pause url all).Timely :=
  unlimited_of_replayed Play.timely_compositional (replayed_timely b tools pause url all)
    (Session.disconnect_timely b)

/-- A panic of the backend ends the scenario in which it occurs, and nothing else. -/
theorem scenario_calm (s : Scenario) : (scenario b tools url pause s).Calm := by
  refine Play.calm_bind Play.calm_look fun before => ?_
  refine Play.calm_bind (Play.calm_attempt _) fun result => ?_
  refine Play.calm_bind Play.calm_look fun after => ?_
  split <;> exact Play.calm_pure _

/-- A replay is calm. -/
theorem replayed_calm (all : List Scenario) : (replayed b tools pause url all).Calm :=
  replayed_of_scenarios Play.calm_compositional (Session.connect_calm b)
    (scenarios_of_scenario Play.calm_compositional (scenario_calm b tools pause url) all)

/-- A repair without a limit is calm. -/
theorem unlimited_calm (all : List Scenario) : (unlimited b tools pause url all).Calm :=
  unlimited_of_replayed Play.calm_compositional (replayed_calm b tools pause url all)
    (Session.disconnect_calm b)

end

/-! ### Closing after the limit -/

variable {b : Backend σ}

/-- Without a deadline, closing leaves the session closed, unless the backend never comes back
from it. -/
theorem disconnect_closed_or_never (w : World σ) :
    (∃ w', Session.disconnect b none w = (.ok (), w') ∧ w'.state = .closed) ∨
    ∃ w' at_, Session.disconnect b none w = (.error .cut, w') ∧
      w'.log.getLast? = some (.close at_ .never) := by
  by_cases hclosed : w.state = .closed
  · exact .inl ⟨w, Session.disconnect_of_closed b none hclosed, hclosed⟩
  · cases hattempted : w.attempted with
    | false =>
        exact .inl ⟨_, Session.disconnect_of_untouched b none hclosed hattempted, rfl⟩
    | true =>
        rw [Session.disconnect_of_attempted b none hclosed hattempted]
        rcases hask : b.close w.backend with ⟨s, _ | ⟨delay, ⟨⟩⟩⟩
        · refine .inr ⟨_, w.now, Play.bind_of_error (by rw [Play.ask, hask]; rfl), ?_⟩
          exact List.getLast?_concat
        · exact .inl ⟨_, Play.bind_of_ok (by rw [Play.ask, hask]; rfl), rfl⟩

/-! ### Repairs within a limit -/

/-- **A repair that has exceeded its limit**, where `full` is what is asked for without a
limit. -/
structure Exceeded (all : List Scenario) (ms : Nat) (full : List Event) (w : World σ)
    (result : Except Interrupt RepairReport × World σ) : Prop where
  /-- Every scenario is kept as it was, for one reason. -/
  kept : ∀ report, result.1 = .ok report →
    ∃ reason, report.entries.map (·.outcome) = all.map fun s => .degraded s reason
  /-- By the limit it asks for what is asked for without one, and then only to close. -/
  asked : ∃ asked later closing, full = w.log ++ asked ++ later ∧
    result.2.log = w.log ++ asked ++ closing ∧ (∀ e ∈ asked, e.time ≤ w.now + ms) ∧
    (∀ e ∈ later, w.now + ms < e.time) ∧ ∀ e ∈ closing, e.kind = .close
  /-- The session ends closed. -/
  closed : ∀ report, result.1 = .ok report → result.2.state = .closed
  /-- Only a close that never comes back keeps it from ending. -/
  ends : (∃ report, result.1 = .ok report) ∨
    ∃ at_, result.2.log.getLast? = some (.close at_ .never)

variable {tools : Toolbox} {pause : Nat} {url : String} {all : List Scenario} {ms : Nat}
variable {w : World σ}

/-- A repair that is cut gives back every scenario as it was. -/
theorem timedOut_outcomes (all : List Scenario) (ms : Nat) :
    (RepairReport.timedOut all ms).entries.map (·.outcome) =
      all.map fun s => .degraded s ("repair exceeded " ++ Time.spanText ms) := by
  rw [RepairReport.timedOut, List.map_map]
  rfl

/-- A repair that the limit cuts has exceeded it. -/
theorem exceeded_of_cut (h : Play.CutAt (unlimited b tools pause url all) (w.now + ms) w) :
    Exceeded all ms (unlimited b tools pause url all none w).2.log w
      (within b tools pause url all (some ms) none w) := by
  obtain ⟨v, hcut, hnow, later, hlater, hafter⟩ := h
  obtain ⟨asked, hasked, htimes⟩ :=
    ((unlimited_timely b tools pause url all).passes (some (w.now + ms)) w
      (due_some.2 (Nat.le_add_right _ _))).log
  obtain ⟨closing, hclosing, hkind⟩ := Session.disconnect_log b none v
  simp only [hcut, hnow] at hasked htimes
  have hbefore : ∀ e ∈ asked, e.time ≤ w.now + ms := fun e he => (htimes e he).2
  rw [hasked] at hclosing hlater
  rw [hlater, within_of_cut hcut]
  rcases disconnect_closed_or_never (b := b) v with ⟨w', hends, hclosed⟩ | ⟨w', at_, hends, hlast⟩
  · rw [hends] at hclosing
    rw [Play.bind_of_ok hends]
    refine ⟨?_, ⟨asked, later, closing, rfl, hclosing, hbefore, hafter, hkind⟩,
      fun _ _ => hclosed, .inl ⟨_, rfl⟩⟩
    rintro _ ⟨⟩
    exact ⟨_, timedOut_outcomes all ms⟩
  · rw [hends] at hclosing
    rw [Play.bind_of_error hends]
    exact ⟨by rintro _ ⟨⟩, ⟨asked, later, closing, rfl, hclosing, hbefore, hafter, hkind⟩,
      by rintro _ ⟨⟩, .inr ⟨at_, hlast⟩⟩

/-- **A limit keeps the report or gives up every scenario.** If the repair would take less time
than the limit, the limit changes nothing: neither the report, nor what is asked of the backend,
nor the world at the end. If it would take more time than the limit, or would never end, it is
given up. -/
theorem within_limit (b : Backend σ) (tools : Toolbox) (pause : Nat) (url : String)
    (all : List Scenario) (ms : Nat) (w : World σ) :
    (∀ t, Play.duration? (unlimited b tools pause url all) w = some t → t < ms →
      within b tools pause url all (some ms) none w = unlimited b tools pause url all none w) ∧
    ((∀ t, Play.duration? (unlimited b tools pause url all) w = some t → ms < t) →
      Exceeded all ms (unlimited b tools pause url all none w).2.log w
        (within b tools pause url all (some ms) none w)) := by
  refine ⟨fun t ht hlt => ?_, fun h => ?_⟩
  · have hsame := (unlimited_timely b tools pause url all).of_duration_lt ht hlt
    obtain ⟨report, w', hends, -⟩ := Play.duration?_eq_some_iff.1 ht
    rw [hends] at hsame ⊢
    exact within_of_ended hsame
  · exact exceeded_of_cut <| (unlimited_timely b tools pause url all).cut_of_duration
      (unlimited_calm b tools pause url all) h

/-- The repair of the sample scenarios without a limit. -/
def sample : Play (List (Timed CallEnd)) RepairReport :=
  unlimited .playback .bySelector 0 "https://x.test" [signIn, search]

/-- The same within a limit. -/
def sampleWithin (ms : Nat) : Play (List (Timed CallEnd)) RepairReport :=
  within .playback .bySelector 0 "https://x.test" [signIn, search] (some ms)

/-- The repair of the sample takes 62 ms. -/
theorem sample_duration : sample.duration? (.start signInThenPanic) = some 62 := by
  decide +kernel

/-- A limit of 63 milliseconds does nothing to the sample repair, and a limit of 25 milliseconds
cuts it during the third of its six calls. -/
theorem within_limit_sample :
    sampleWithin 63 none (.start signInThenPanic) = sample none (.start signInThenPanic) ∧
    Exceeded [signIn, search] 25 (sample none (.start signInThenPanic)).2.log
      (.start signInThenPanic) (sampleWithin 25 none (.start signInThenPanic)) ∧
    (sampleWithin 25 none (.start signInThenPanic)).2.log.map (fun e => (e.kind, e.time)) =
      [(.connect, 0), (.call, 1), (.call, 11), (.call, 21), (.close, 25)] := by
  have hduration := sample_duration
  refine ⟨?_, ?_, by decide +kernel⟩
  · rw [sample] at hduration
    rw [sampleWithin, sample]
    exact (within_limit .playback .bySelector 0 "https://x.test" [signIn, search] 63
      (.start signInThenPanic)).1 62 hduration (by decide)
  · rw [sample] at hduration
    rw [sampleWithin, sample]
    refine (within_limit .playback .bySelector 0 "https://x.test" [signIn, search] 25
      (.start signInThenPanic)).2 fun t ht => ?_
    obtain rfl : 62 = t := Option.some.inj (hduration.symm.trans ht)
    decide

end Scenarist.Repair
