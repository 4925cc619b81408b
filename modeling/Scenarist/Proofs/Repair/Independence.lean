import Scenarist.Proofs.Repair.Loss

/-!
# Scenarios Are Repaired Independently

All scenarios of a repair share one session. Where the backend reacts to a call in a way that
depends on the tool and its arguments only, and never loses the connection, nothing is carried from
one scenario to the next: each has an entry that depends on the scenario alone, up to the time it
took. It does not matter whether the ones before it were replayed, failed at some of their steps or
were interrupted by a panic in the middle of a call.

The reason is that what a replay gives on a connection is settled before it begins (`Settled`): it
ends in the same way whatever the state of the backend, the time and the log are, and leaves the
connection as it is. So does a panic. What is settled is the value as far as a view of it shows,
since values hold times.

## Main results

* `Play.settled_bind`: sequences of settled courses.
* `scenario_settled`: the entry of a scenario is settled, and the next one begins on the same
  connection.
* `unlimited_settled`: the entries of a repair are those of its scenarios, each by itself.
* `unlimited_append`: **scenarios are repaired independently**.
-/

namespace Scenarist

variable {σ α β γ δ : Type}

/-! ### Courses whose end is settled -/

namespace Play

/-- What a course has come to, on a connection that it has left as it was: it gave a value of which
the view shows `r`, or it was interrupted by a panic with the message `r`. -/
inductive Seen (view : α → β) :
    Except (Option String) β → Except Interrupt α × World σ → Prop where
  | ended (a : α) {w : World σ} (h : w.state = .connected) : Seen view (.ok (view a)) (.ok a, w)
  | panicked (message : Option String) {w : World σ} (h : w.state = .connected) :
    Seen view (.error message) (.error (.panicked message), w)

/-- On every connection, and without a deadline, the course **gives** `r`, as far as the view
shows. -/
def Gives (view : α → β) (r : Except (Option String) β) (p : Play σ α) : Prop :=
  ∀ w, w.state = .connected → Seen view r (p none w)

/-- What the course gives on a connection is **settled**. -/
def Settled (view : α → β) (p : Play σ α) : Prop := ∃ r, Gives view r p

/-- A course that gives a value ends, on the connection. -/
theorem Gives.exists_ok {view : α → β} {v : β} {p : Play σ α} (hp : Gives view (.ok v) p)
    {w : World σ} (hw : w.state = .connected) :
    ∃ a u, p none w = (.ok a, u) ∧ view a = v ∧ u.state = .connected := by
  have hseen := hp w hw
  generalize p none w = result at hseen
  cases hseen with
  | ended a h => exact ⟨a, _, rfl, rfl, h⟩

/-- A course that only gives a result gives it on every connection. -/
theorem gives_pure (view : α → β) (a : α) : Gives view (.ok (view a)) (pure a : Play σ α) :=
  fun _ hw => .ended a hw

/-- A course that only gives a result is settled. -/
theorem settled_pure (view : α → β) (a : α) : Settled view (pure a : Play σ α) :=
  ⟨_, gives_pure view a⟩

section

variable {view : α → γ} {view' : β → δ} {p : Play σ α} {f : α → Play σ β}

/-- A sequence panics as its first part does. -/
theorem gives_bind_of_error {message : Option String} (hp : Gives view (.error message) p)
    (f : α → Play σ β) : Gives view' (.error message) (p >>= f) := by
  intro w hw
  have hfirst := hp w hw
  generalize hpw : p none w = result at hfirst
  cases hfirst with
  | panicked _ h =>
      rw [bind_of_error hpw]
      exact .panicked message h

/-- A sequence gives what its second part gives. -/
theorem gives_bind_of_ok {v : γ} {r : Except (Option String) δ} (hp : Gives view (.ok v) p)
    (hf : ∀ a, view a = v → Gives view' r (f a)) : Gives view' r (p >>= f) := by
  intro w hw
  obtain ⟨a, u, hpw, ha, hu⟩ := hp.exists_ok hw
  rw [bind_of_ok hpw]
  exact hf a ha u hu

/-- **A sequence is settled** if its first part is, and if what comes after it is settled by what
the view shows of it. -/
theorem settled_bind (hp : Settled view p)
    (hf : ∀ v, ∃ r, ∀ a, view a = v → Gives view' r (f a)) : Settled view' (p >>= f) := by
  obtain ⟨message | v, hp⟩ := hp
  · exact ⟨_, gives_bind_of_error hp f⟩
  · obtain ⟨r, hr⟩ := hf v
    exact ⟨r, gives_bind_of_ok hp hr⟩

/-- The same where the view shows everything. -/
theorem settled_bind_id (hp : Settled id p) (hf : ∀ a, Settled view' (f a)) :
    Settled view' (p >>= f) := by
  refine settled_bind hp fun a => ?_
  obtain ⟨r, hr⟩ := hf a
  refine ⟨r, ?_⟩
  rintro _ rfl
  exact hr

/-- An attempt gives what was settled as a value. -/
theorem gives_attempt {r : Except (Option String) α} (hp : Gives id r p) :
    Gives id (.ok r) (attempt p) := by
  intro w hw
  have hfirst := hp w hw
  rw [attempt]
  generalize p none w = result at hfirst
  cases hfirst with
  | ended a h => exact (.ended (Except.ok a) h : Seen id _ _)
  | panicked message h => exact (.ended (Except.error message) h : Seen id _ _)

/-- What is read off the value is settled if the view shows enough for it. -/
theorem settled_map {f : α → β} {g : γ → δ} (hp : Settled view p)
    (hf : ∀ a, view' (f a) = g (view a)) : Settled view' (p >>= fun a => pure (f a)) := by
  refine settled_bind hp fun v => ⟨.ok (g v), ?_⟩
  rintro a rfl
  rw [← hf]
  exact gives_pure view' (f a)

end

end Play

/-! ### Steady backends -/

/-- The backend is **steady**: it connects, and its reaction to a call is what the tool and the
arguments say, after whatever time. It never loses the connection. -/
structure Steady (b : Backend σ) (react : String → Json → CallEnd) : Prop where
  connects : ∀ s, ∃ delay, (b.connect s).2 = .after delay (.ok ())
  reacts : ∀ s tool arguments, ∃ delay,
    (b.call s tool arguments).2 = .after delay (react tool arguments)
  lossless : ∀ tool arguments, (react tool arguments).isLoss = false

variable {b : Backend σ} {react : String → Json → CallEnd} (hb : Steady b react)
variable (tools : Toolbox)

/-- The result of a step without the time that it took. -/
def StepResult.untimed (r : StepResult) : StepResult := { r with executionTimeMs := none }

namespace Session

/-- There is no time in the result of a step that is made of an answer. -/
theorem stepResult_untimed (action : Action) (target : String)
    (answer : Except Failure ToolReply) :
    (stepResult action target answer).untimed = stepResult action target answer := by
  rcases answer with e | reply
  · rfl
  · simp only [stepResult]
    split
    · rfl
    · split
      · split <;> rfl
      · rfl

/-- What becomes of the session after an answer that is no loss is read off the answer. -/
theorem afterCall_settled {answer : CallEnd} (hanswer : answer.isLoss = false) :
    Play.Settled id (afterCall answer : Play σ _) := by
  cases answer with
  | panicked message => exact ⟨.error message, fun w hw => .panicked message hw⟩
  | answered result =>
      cases result with
      | ok reply => exact Play.settled_pure id _
      | error failure =>
          cases failure with
          | connection reason => cases hanswer
          | io reason => cases hanswer
          | _ => exact Play.settled_pure id _

include hb

/-- **A call** of a steady backend is settled. -/
theorem call_settled (tool : String) (arguments : Json) :
    Play.Settled id (call b tool arguments) := by
  obtain ⟨r, hr⟩ := afterCall_settled (σ := σ) (hb.lossless tool arguments)
  refine ⟨r, fun w hw => ?_⟩
  obtain ⟨delay, hreaction⟩ := hb.reacts w.backend tool arguments
  have hask : Play.ask (b.call · tool arguments) (.call · tool arguments ·) none w =
      (.ok (react tool arguments), { w with
        backend := (b.call w.backend tool arguments).1
        now := w.now + delay
        log := w.log ++
          [.call w.now tool arguments (.after delay (react tool arguments))] }) :=
    Play.ask_eq_ok_iff.2 ⟨_, delay, Prod.ext rfl hreaction, by rintro _ ⟨⟩, rfl⟩
  rw [call_of_connected b none hw, Play.bind_of_ok hask]
  exact hr _ hw

/-- What a validation gives is settled. -/
theorem validateSelector_settled (target : String) :
    Play.Settled id (validateSelector b tools target) := by
  refine Play.settled_bind_id (call_settled hb _ _) fun answer => ?_
  split <;> exact Play.settled_pure id _

/-- What a step gives is settled, but for the time it took. -/
theorem executeStep_settled (action : Action) (target : String) (data : Option String) :
    Play.Settled (Except.map StepResult.untimed) (executeStep b tools action target data) := by
  rw [executeStep]
  split
  · exact Play.settled_pure _ _
  · next tool _ =>
    obtain ⟨message | answer, hcall⟩ :=
      call_settled hb tool.name (Template.render target data tool.arguments)
    · exact ⟨.error message, fun w hw => Play.gives_bind_of_error hcall _ w hw⟩
    · refine ⟨.ok (answer.map (stepResult action target)), fun w hw => ?_⟩
      rw [Play.look_bind]
      refine Play.gives_bind_of_ok hcall (fun reply hreply => ?_) w hw
      obtain rfl : reply = answer := hreply
      cases reply with
      | error e => exact Play.gives_pure (Except.map StepResult.untimed) (.error e)
      | ok reply =>
          intro u hu
          rw [Except.map, ← stepResult_untimed]
          let timed := { stepResult action target reply with
            executionTimeMs := some (u.now - w.now) }
          exact (.ended (Except.ok timed) hu : Play.Seen (Except.map StepResult.untimed) _ _)

end Session

namespace Repair

variable (url : String) (pause : Nat)

include hb

/-- What becomes of a step on an element is settled. -/
theorem elementStep_settled (s : Step) : Play.Settled id (elementStep b tools s) := by
  refine Play.settled_bind_id (Session.validateSelector_settled hb tools s.target) fun r => ?_
  cases r with
  | error e => exact Play.settled_pure id _
  | ok v =>
      have hexecuted := Session.executeStep_settled hb tools s.action (candidate s v) s.data
      refine Play.settled_bind hexecuted fun r => ⟨.ok (r.map (elementOutcome s v)), ?_⟩
      rintro (e | r) rfl
      · exact Play.gives_pure id _
      · exact Play.gives_pure id _

/-- What becomes of a step is settled. -/
theorem step_settled (index : Nat) (s : Step) : Play.Settled id (step b tools url index s) := by
  rcases rule_cases s with ⟨name, hs⟩ | hs | ⟨hs, hroot⟩ | hs
  · rw [step_other hs]
    exact Play.settled_pure id _
  · rw [step_goto hs]
    refine Play.settled_map (g := Except.map (navigationOutcome s))
      (Session.executeStep_settled hb tools _ _ _) fun r => ?_
    cases r <;> rfl
  · rw [step_root hs hroot]
    refine Play.settled_map (g := Except.map (waitOutcome s))
      (Session.executeStep_settled hb tools _ _ _) fun r => ?_
    cases r <;> rfl
  · rw [step_onElement hs]
    exact elementStep_settled hb tools s

/-- **The steps of a scenario** are settled: each has the same outcome on every connection. -/
theorem steps_settled (index : Nat) (all : List Step) :
    Play.Settled id (steps b tools url pause index all) := by
  induction all generalizing index with
  | nil => exact Play.settled_pure id _
  | cons s rest ih =>
      rw [steps_cons]
      refine Play.settled_bind_id ⟨.ok (), fun w hw => ?_⟩ fun _ => ?_
      · obtain ⟨t, hpause⟩ := paced_of_no_deadline pause index w
        rw [hpause]
        exact .ended () hw
      · refine Play.settled_bind_id (step_settled hb tools url index s) fun r => ?_
        cases r with
        | error e => exact Play.settled_pure id _
        | ok o =>
            refine Play.settled_bind_id (ih (index + 1)) fun r => ?_
            split <;> exact Play.settled_pure id _

end Repair

/-- What became of a scenario, without the time that it took. -/
def ScenarioRepair.timeless (r : ScenarioRepair) : ScenarioRepair :=
  { r with
    outcome := r.outcome.map fun s => { s with timeTaken := none }
    durationMs := 0 }

/-- The time a replay took is left aside. -/
theorem ScenarioRepair.timeless_replayed (s : Scenario) (os : List (Outcome Step))
    (elapsed elapsed' : Nat) :
    (replayed s os elapsed).timeless = (replayed s os elapsed').timeless := by
  simp only [timeless, replayed, Outcome.map]

/-- The time that was spent on a scenario which was kept is left aside. -/
theorem ScenarioRepair.timeless_kept (s : Scenario) (reason : String) (elapsed elapsed' : Nat) :
    (kept s reason elapsed).timeless = (kept s reason elapsed').timeless := by
  simp only [timeless, kept, Outcome.map]

namespace Repair

variable (url : String) (pause : Nat)

include hb

/-- **The entry of a scenario** is settled, whether it is replayed or a panic interrupts it. -/
theorem scenario_settled (s : Scenario) :
    ∃ v, Play.Gives ScenarioRepair.timeless (.ok v) (scenario b tools url pause s) := by
  obtain ⟨r, hsteps⟩ := steps_settled hb tools url pause 0 s.steps
  have hattempt {w : World σ} (hw : w.state = .connected) : ∃ u,
      Play.attempt (steps b tools url pause 0 s.steps) none w = (.ok r, u) ∧
        u.state = .connected := by
    obtain ⟨_, u, hu, rfl, hstate⟩ := (Play.gives_attempt hsteps).exists_ok hw
    exact ⟨u, hu, hstate⟩
  rcases r with message | e | outcomes
  · refine ⟨(ScenarioRepair.kept s (panicReason message) 0).timeless, fun w hw => ?_⟩
    obtain ⟨u, hresult, hu⟩ := hattempt hw
    rw [scenario, Play.look_bind, Play.bind_of_ok hresult, Play.look_bind,
      ScenarioRepair.timeless_kept _ _ 0 (u.now - w.now)]
    exact .ended _ hu
  · refine ⟨(ScenarioRepair.kept s e.message 0).timeless, fun w hw => ?_⟩
    obtain ⟨u, hresult, hu⟩ := hattempt hw
    rw [scenario, Play.look_bind, Play.bind_of_ok hresult, Play.look_bind,
      ScenarioRepair.timeless_kept _ _ 0 (u.now - w.now)]
    exact .ended _ hu
  · refine ⟨(ScenarioRepair.replayed s outcomes 0).timeless, fun w hw => ?_⟩
    obtain ⟨u, hresult, hu⟩ := hattempt hw
    rw [scenario, Play.look_bind, Play.bind_of_ok hresult, Play.look_bind,
      ScenarioRepair.timeless_replayed _ _ 0 (u.now - w.now)]
    exact .ended _ hu

/-- **The entries of a repair** are those of its scenarios, each by itself: there is one for every
scenario, whichever others are repaired with it and in whatever state the backend is. -/
theorem unlimited_settled : ∃ entry : Scenario → ScenarioRepair, ∀ all s,
    EndsOrCloses (unlimited b tools pause url all none (.start s)) ∧
    ∀ report w, unlimited b tools pause url all none (.start s) = (.ok report, w) →
      report.connected = true ∧ report.entries.map (·.timeless) = all.map entry := by
  choose entry hentry using scenario_settled hb tools url pause
  have hscenarios (all : List Scenario) {w : World σ} (hw : w.state = .connected) :
      ∃ rs u, scenarios b tools url pause all none w = (.ok rs, u) ∧
        rs.map (·.timeless) = all.map entry := by
    induction all generalizing w with
    | nil => exact ⟨[], w, rfl, rfl⟩
    | cons s rest ih =>
        obtain ⟨r, u, hscenario, hr, hu⟩ := (hentry s).exists_ok hw
        obtain ⟨rs, v, hrest, hrs⟩ := ih hu
        rw [scenarios, Play.bind_of_ok hscenario, Play.bind_of_ok hrest]
        exact ⟨r :: rs, v, rfl, by rw [List.map_cons, List.map_cons, hr, hrs]⟩
  refine ⟨entry, fun all s => ?_⟩
  obtain ⟨delay, hconnects⟩ := hb.connects s
  have hconnect := Session.connect_start b hconnects
  obtain ⟨rs, v, hall, hrs⟩ := hscenarios all (w := ⟨_, .connected, _, _, _⟩) rfl
  rw [unlimited_of_scenarios_ok hconnect hall]
  refine ⟨(closing_ends _ _).1, fun report w h => ?_⟩
  rw [eq_of_closing_ok h]
  exact ⟨rfl, hrs⟩

/-- **Scenarios are repaired independently.** With a steady backend, three repairs without a limit
are compared, each in a session of its own and with the backend in any state: one of two lists of
scenarios one after the other, and one of each. Each of them ends, or else the backend never comes
back from closing; and up to the time that it took, what the first reports is what the second and
the third report, one after the other. -/
theorem unlimited_append (xs ys : List Scenario) (s s₁ s₂ : σ) :
    let both := unlimited b tools pause url (xs ++ ys) none (.start s)
    let first := unlimited b tools pause url xs none (.start s₁)
    let second := unlimited b tools pause url ys none (.start s₂)
    (EndsOrCloses both ∧ EndsOrCloses first ∧ EndsOrCloses second) ∧
    ∀ report report₁ report₂, both.1 = .ok report → first.1 = .ok report₁ →
      second.1 = .ok report₂ →
      (report.connected = true ∧ report₁.connected = true ∧ report₂.connected = true) ∧
      report.entries.map (·.timeless) =
        report₁.entries.map (·.timeless) ++ report₂.entries.map (·.timeless) := by
  intro both first second
  obtain ⟨entry, hentry⟩ := unlimited_settled hb tools url pause
  obtain ⟨hends, hreport⟩ := hentry (xs ++ ys) s
  obtain ⟨hends₁, hreport₁⟩ := hentry xs s₁
  obtain ⟨hends₂, hreport₂⟩ := hentry ys s₂
  refine ⟨⟨hends, hends₁, hends₂⟩, fun report report₁ report₂ h h₁ h₂ => ?_⟩
  obtain ⟨hconnected, hentries⟩ := hreport report _ (Prod.ext h rfl)
  obtain ⟨hconnected₁, hentries₁⟩ := hreport₁ report₁ _ (Prod.ext h₁ rfl)
  obtain ⟨hconnected₂, hentries₂⟩ := hreport₂ report₂ _ (Prod.ext h₂ rfl)
  refine ⟨⟨hconnected, hconnected₁, hconnected₂⟩, ?_⟩
  rw [hentries, hentries₁, hentries₂, List.map_append]

omit hb

/-- How the tools react: a click is a panic, a check suggests a selector, and everything else
succeeds. -/
def panicOnClick (tool : String) (_ : Json) : CallEnd :=
  if tool = "click" then .panicked (some "bug")
  else if tool = "validate_selector" then .answered (.ok ⟨false, "#better"⟩)
  else .answered (.ok ⟨false, ""⟩)

/-- A backend with these tools that becomes slower with each call. -/
def tiring : Backend Nat where
  connect n := (n, .after n (.ok ()))
  call n tool arguments := (n + 1, .after n (panicOnClick tool arguments))
  close n := (n, .after n ())

theorem tiring_steady : Steady tiring panicOnClick where
  connects n := ⟨n, rfl⟩
  reacts n _ _ := ⟨n, rfl⟩
  lossless tool _ := by
    rw [panicOnClick]
    split
    · rfl
    · split <;> rfl

/-- A repair with this backend. -/
def tiringRun (all : List Scenario) (n : Nat) : Except Interrupt RepairReport × World Nat :=
  unlimited tiring .bySelector 0 "https://x.test" all none (.start n)

/-- The first scenario ends with a panic in the middle of a call. The second one is repaired all
the same, as it is by itself. -/
theorem unlimited_append_tiring :
    ∃ report report₁ report₂, (tiringRun ([signIn] ++ [search]) 7).1 = .ok report ∧
      (tiringRun [signIn] 3).1 = .ok report₁ ∧ (tiringRun [search] 0).1 = .ok report₂ ∧
      report.entries.map (·.outcome.isDegraded) = [true, false] ∧
      report₂.entries.map (·.improved) = [1] ∧
      report.entries.map (·.timeless) =
        report₁.entries.map (·.timeless) ++ report₂.entries.map (·.timeless) := by
  obtain ⟨report, hrun, hdegraded⟩ := exists_ok (tiringRun ([signIn] ++ [search]) 7)
    (f := fun r => r.entries.map (·.outcome.isDegraded)) (v := [true, false]) (by decide +kernel)
  obtain ⟨report₁, hrun₁, -⟩ := exists_ok (tiringRun [signIn] 3)
    (f := fun r => r.entries.map (·.outcome.isDegraded)) (v := [true]) (by decide +kernel)
  obtain ⟨report₂, hrun₂, himproved⟩ := exists_ok (tiringRun [search] 0)
    (f := fun r => r.entries.map (·.improved)) (v := [1]) (by decide +kernel)
  have hindependent := unlimited_append tiring_steady .bySelector "https://x.test" 0
    [signIn] [search] 7 3 0
  exact ⟨report, report₁, report₂, congrArg Prod.fst hrun, congrArg Prod.fst hrun₁,
    congrArg Prod.fst hrun₂, hdegraded, himproved, (hindependent.2 report report₁ report₂
      (congrArg Prod.fst hrun) (congrArg Prod.fst hrun₁) (congrArg Prod.fst hrun₂)).2⟩

end Repair

end Scenarist
