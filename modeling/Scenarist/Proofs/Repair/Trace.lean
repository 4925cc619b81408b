import Scenarist.Proofs.Repair.Loss
import Scenarist.Proofs.Repair.Release
import Scenarist.Proofs.Session.Trace

/-!
# The Trace of a Repair

What a repair without a limit asks of the backend, from the connect to the close. For a scenario the
calls are prescribed step by step (`StepCalls`, `StepsCalls`): none for an action that is not
recognized, one for a navigation and for waiting for the page as a whole, and otherwise a check of
the target and then the execution with the selector that the reaction to the check decides on.

A replay plays these traces: its calls are those prescribed, or the first of them up to the call
that broke the scenario off. After a loss of the connection, and after a call that never comes back,
no further scenario asks for anything.

## Main results

* `step_plays`, `steps_plays`: a step, and the steps of a scenario, play the prescribed calls.
* `scenario_trace`: the calls made for a scenario.
* `scenarios_trace`: the calls made for scenarios, one after the other.
* `unlimited_trace`: **the trace of a repair**.
-/

namespace Scenarist.Repair

variable {σ : Type}

/-! ### Prescribed calls -/

section

variable (tools : Toolbox) (url : String)

/-- The selector with which a step is executed after this reaction to the check of its target. -/
def settledTarget (s : Step) : Timed CallEnd → String
  | .after _ (.answered answer) => candidate s (Session.validation s.target answer)
  | _ => s.target

/-- The calls are those **prescribed for the step** with the given index, with whatever
reactions. -/
inductive StepCalls (index : Nat) (s : Step) : List Event → Prop where
  | other {name : String} (h : s.action = .other name) : StepCalls index s []
  | goto (h : s.action = .goto) (at_ : Nat) (reaction : Timed CallEnd) :
      StepCalls index s [
        .call at_ tools.navigate.name
          (Template.render (if index = 0 then url else s.target) none tools.navigate.arguments)
          reaction]
  | root (h : s.action = .wait) (hroot : s.targetsRoot = true) (at_ : Nat)
      (reaction : Timed CallEnd) :
      StepCalls index s [
        .call at_ tools.waitFor.name (Template.render s.target s.data tools.waitFor.arguments)
          reaction]
  | onElement (h : OnElement s) {tool : Tool} (htool : tools.forAction? s.action = some tool)
      (at₁ at₂ : Nat) (check reaction : Timed CallEnd) :
      StepCalls index s [
        .call at₁ tools.validateSelector.name
          (Template.render s.target none tools.validateSelector.arguments) check,
        .call at₂ tool.name
          (Template.render (settledTarget s check) s.data tool.arguments) reaction]

/-- The calls are those **prescribed for the steps**, the first of which has the given index. -/
inductive StepsCalls : Nat → List Step → List Event → Prop where
  | nil (index : Nat) : StepsCalls index [] []
  | cons {index : Nat} {s : Step} {rest : List Step} {first later : List Event}
      (h : StepCalls tools url index s first) (hrest : StepsCalls (index + 1) rest later) :
      StepsCalls index (s :: rest) (first ++ later)

theorem exists_stepCalls (index : Nat) (s : Step) :
    ∃ calls, StepCalls tools url index s calls := by
  rcases rule_cases s with ⟨name, hs⟩ | hs | ⟨hs, hroot⟩ | hs
  · exact ⟨_, .other hs⟩
  · exact ⟨_, .goto hs 0 .never⟩
  · exact ⟨_, .root hs hroot 0 .never⟩
  · obtain ⟨tool, htool⟩ := exists_tool tools hs.1
    exact ⟨_, .onElement hs htool 0 0 .never .never⟩

theorem exists_stepsCalls (index : Nat) (all : List Step) :
    ∃ calls, StepsCalls tools url index all calls := by
  induction all generalizing index with
  | nil => exact ⟨[], .nil index⟩
  | cons s rest ih =>
      obtain ⟨first, hfirst⟩ := exists_stepCalls tools url index s
      obtain ⟨later, hlater⟩ := ih (index + 1)
      exact ⟨first ++ later, .cons hfirst hlater⟩

/-- For actions that are not recognized no calls are prescribed. -/
theorem stepsCalls_of_unrecognized {all : List Step}
    (h : ∀ s ∈ all, s.action.isRecognized = false) (index : Nat) :
    StepsCalls tools url index all [] := by
  induction all generalizing index with
  | nil => exact .nil index
  | cons s rest ih =>
      obtain ⟨name, hs⟩ : ∃ name, s.action = .other name := by
        have hunrecognized := h s (by simp)
        cases ha : s.action with
        | other name => exact ⟨name, rfl⟩
        | _ => simp [ha, Action.isRecognized] at hunrecognized
      have hrest := ih (fun t ht => h t (by simp [ht])) (index + 1)
      exact (.cons (.other hs) hrest : StepsCalls tools url index (s :: rest) ([] ++ []))

end

/-! ### Steps -/

section

variable (b : Backend σ) (tools : Toolbox) (url : String)

/-- A step that is executed without a check is played as one call. -/
theorem executed_plays {p : Play σ (Except SessionError StepResult)} {P : List Event → Prop}
    (hp : p.Plays (fun _ => P) P) (f : StepResult → Outcome Step) :
    Play.Plays (fun _ => P) P (do
      let r ← p
      return r.map f : Play σ (Except SessionError (Outcome Step))) := by
  refine Play.plays_bind hp (fun _ => rfl) (fun _ h => h) fun r first h => ?_
  exact Play.plays_ok (by rwa [List.append_nil])

/-- A step on an element is played as its check and its execution. -/
theorem elementStep_plays {s : Step} (hs : OnElement s) (index : Nat) :
    (elementStep b tools s).Plays (fun _ => StepCalls tools url index s)
      (fun calls => ∃ more, StepCalls tools url index s (calls ++ more)) := by
  obtain ⟨tool, htool⟩ := exists_tool tools hs.1
  refine Play.plays_bind (Session.validateSelector_plays b tools s.target) (fun _ => rfl)
    ?_ fun v first h => ?_
  · rintro _ ⟨at_, reaction, rfl⟩
    exact ⟨_, .onElement hs htool at_ 0 reaction .never⟩
  · obtain ⟨answer, rfl, at₁, delay, rfl⟩ := h
    have hexecution (later : List Event)
        (h : Session.OneCall tool.name
          (Template.render (candidate s (Session.validation s.target answer)) s.data
            tool.arguments) later) :
        StepCalls tools url index s ([.call at₁ tools.validateSelector.name
          (Template.render s.target none tools.validateSelector.arguments)
          (.after delay (.answered answer))] ++ later) := by
      obtain ⟨at₂, reaction, rfl⟩ := h
      exact .onElement hs htool at₁ at₂ (.after delay (.answered answer)) reaction
    refine Play.plays_bind (Session.executeStep_plays b tools htool _ _) (fun _ => rfl)
      (fun later h => ⟨[], by rw [List.append_nil]; exact hexecution later h⟩) fun r later h => ?_
    exact Play.plays_ok (by rw [List.append_nil]; exact hexecution later h)

/-- **A step** plays the calls that are prescribed for it. -/
theorem step_plays (index : Nat) (s : Step) :
    (step b tools url index s).Plays (fun _ => StepCalls tools url index s)
      (fun calls => ∃ more, StepCalls tools url index s (calls ++ more)) := by
  have hpart (calls : List Event) (h : StepCalls tools url index s calls) :
      ∃ more, StepCalls tools url index s (calls ++ more) := ⟨[], by rwa [List.append_nil]⟩
  rcases rule_cases s with ⟨name, hs⟩ | hs | ⟨hs, hroot⟩ | hs
  · rw [step_other hs]
    exact Play.plays_ok (.other hs)
  · rw [step_goto hs]
    have hcall (calls : List Event) (h : Session.OneCall tools.navigate.name
        (Template.render (if index = 0 then url else s.target) none tools.navigate.arguments)
        calls) : StepCalls tools url index s calls := by
      obtain ⟨at_, reaction, rfl⟩ := h
      exact .goto hs at_ reaction
    exact (executed_plays (Session.executeStep_plays b tools rfl _ _) _).mono
      (fun _ => hcall) fun calls h => hpart calls (hcall calls h)
  · rw [step_root hs hroot]
    have hcall (calls : List Event) (h : Session.OneCall tools.waitFor.name
        (Template.render s.target s.data tools.waitFor.arguments) calls) :
        StepCalls tools url index s calls := by
      obtain ⟨at_, reaction, rfl⟩ := h
      exact .root hs hroot at_ reaction
    exact (executed_plays (Session.executeStep_plays b tools rfl _ _) _).mono
      (fun _ => hcall) fun calls h => hpart calls (hcall calls h)
  · rw [step_onElement hs]
    exact elementStep_plays b tools url hs index

/-- **The steps of a scenario** play the calls that are prescribed for them. -/
theorem steps_plays (pause index : Nat) (all : List Step) :
    (steps b tools url pause index all).Plays (fun _ => StepsCalls tools url index all)
      (fun calls => ∃ more, StepsCalls tools url index all (calls ++ more)) := by
  induction all generalizing index with
  | nil => exact Play.plays_ok (.nil index)
  | cons s rest ih =>
      have hcontinued (o : Outcome Step) (first : List Event)
          (hfirst : StepCalls tools url index s first) :
          (continued b tools url pause index rest (.ok o)).Plays
            (fun _ later => StepsCalls tools url index (s :: rest) (first ++ later))
            (fun later => ∃ more,
              StepsCalls tools url index (s :: rest) (first ++ later ++ more)) := by
        refine Play.plays_bind (ih (index + 1)) (fun _ => rfl) ?_ fun os later hlater => ?_
        · rintro later ⟨more, hlater⟩
          exact ⟨more, by rw [List.append_assoc]; exact .cons hfirst hlater⟩
        · exact Play.plays_ok (by rw [List.append_nil]; exact .cons hfirst hlater)
      -- A step that was broken off is followed, in the prescribed calls, by those for the rest.
      have hpart (calls : List Event)
          (h : ∃ more, StepCalls tools url index s (calls ++ more)) :
          ∃ more, StepsCalls tools url index (s :: rest) (calls ++ more) := by
        obtain ⟨more, hmore⟩ := h
        obtain ⟨later, hlater⟩ := exists_stepsCalls tools url (index + 1) rest
        exact ⟨more ++ later, by rw [← List.append_assoc]; exact .cons hmore hlater⟩
      have hall : (step b tools url index s >>= continued b tools url pause index rest).Plays
          (fun _ => StepsCalls tools url index (s :: rest))
          (fun calls => ∃ more, StepsCalls tools url index (s :: rest) (calls ++ more)) :=
        Play.plays_bind (step_plays b tools url index s) (fun _ => rfl) hpart hcontinued
      intro w hw
      obtain ⟨t, hpause⟩ := paced_of_no_deadline pause index w
      rw [steps_cons, Play.bind_of_ok hpause]
      exact hall { w with now := t } hw

end

/-! ### Scenarios -/

/-- **The calls made for a scenario**: the first of those prescribed for its steps, where a call
that breaks the scenario off is the last one. -/
structure ScenarioCalls (tools : Toolbox) (url : String) (s : Scenario) (calls : List Event) :
    Prop where
  prescribed : ∃ more, StepsCalls tools url 0 s.steps (calls ++ more)
  broken : ∀ made e later, calls = made ++ e :: later → e.breaksOff = true → later = []

/-- What comes of the calls that were made for a scenario. -/
structure ScenarioTrace (tools : Toolbox) (url : String) (s : Scenario) (calls : List Event)
    (result : Except Interrupt ScenarioRepair × World σ) : Prop where
  asked : ScenarioCalls tools url s calls
  /-- A scenario that was replayed made all the calls. -/
  whole : ∀ r, result.1 = .ok r → r.outcome.isOk = true → StepsCalls tools url 0 s.steps calls
  lost : (∃ e ∈ calls, e.isLoss = true) → result.2.state ≠ .connected
  /-- Only a call that never comes back keeps the scenario from its end. -/
  ends : (∃ r, result.1 = .ok r) ∨
    result.1 = .error .cut ∧ ∃ e, calls.getLast? = some e ∧ e.interrupt? = some .cut

/-- No calls are the first of any. -/
theorem scenarioCalls_nil (tools : Toolbox) (url : String) (s : Scenario) :
    ScenarioCalls tools url s [] :=
  ⟨exists_stepsCalls tools url 0 s.steps, by simp⟩

theorem scenarioCalls_of_unbroken {tools : Toolbox} {url : String} {s : Scenario}
    {calls : List Event} (hcalls : Unbroken calls) (h : StepsCalls tools url 0 s.steps calls) :
    ScenarioCalls tools url s calls := by
  refine ⟨⟨[], by rwa [List.append_nil]⟩, ?_⟩
  rintro made e later rfl he
  have hnot := hcalls e (by simp)
  rw [he] at hnot
  cases hnot

theorem scenarioCalls_of_broken {tools : Toolbox} {url : String} {s : Scenario}
    {made : List Event} {last : Event} (hmade : Unbroken made)
    (h : ∃ more, StepsCalls tools url 0 s.steps (made ++ [last] ++ more)) :
    ScenarioCalls tools url s (made ++ [last]) := by
  refine ⟨h, fun first e later hsplit he => ?_⟩
  rcases List.eq_nil_or_concat later with rfl | ⟨init, x, rfl⟩
  · rfl
  · rw [List.concat_eq_append, ← List.cons_append, ← List.append_assoc] at hsplit
    obtain ⟨rfl, -⟩ := List.append_inj' hsplit rfl
    have hnot := hmade e (by simp)
    rw [he] at hnot
    cases hnot

variable (b : Backend σ) (tools : Toolbox) (url : String) (pause : Nat)

/-- **The trace of a scenario** that is begun on a connection. -/
theorem scenario_trace {w : World σ} (hw : w.state = .connected) (s : Scenario) :
    ∃ calls, (scenario b tools url pause s none w).2.log = w.log ++ calls ∧
      ScenarioTrace tools url s calls (scenario b tools url pause s none w) := by
  have hplayed := steps_plays b tools url pause 0 s.steps w hw
  rw [scenario, Play.look_bind]
  generalize hsteps : steps b tools url pause 0 s.steps none w = result at hplayed
  cases hplayed with
  | whole os hstate hlog hcalls htrace =>
      rw [Play.bind_of_ok (by rw [Play.attempt, hsteps])]
      refine ⟨_, hlog, scenarioCalls_of_unbroken hcalls htrace, fun _ _ _ => htrace, ?_,
        .inl ⟨_, rfl⟩⟩
      rintro ⟨e, he, hloss⟩
      rw [hcalls.not_isLoss he] at hloss
      cases hloss
  | lost e hstate hlog hmade hlast htrace =>
      rw [Play.bind_of_ok (by rw [Play.attempt, hsteps])]
      refine ⟨_, hlog, scenarioCalls_of_broken hmade htrace, ?_, fun _ => ?_, .inl ⟨_, rfl⟩⟩
      · rintro _ ⟨⟩ ⟨⟩
      · exact fun h => absurd (hstate.symm.trans h) (by decide)
  | @interrupted i made last u hstate hlog hmade hlast htrace =>
      have hlossless : ¬ ∃ e ∈ made ++ [last], e.isLoss = true := by
        rintro ⟨e, he, hloss⟩
        rcases List.mem_append.1 he with he | he
        · rw [hmade.not_isLoss he] at hloss
          cases hloss
        · rw [List.mem_singleton.1 he, Event.isLoss_of_interrupt? hlast] at hloss
          cases hloss
      cases i with
      | cut =>
          rw [Play.bind_of_error (by rw [Play.attempt, hsteps])]
          exact ⟨_, hlog, scenarioCalls_of_broken hmade htrace, by rintro _ ⟨⟩,
            fun h => absurd h hlossless, .inr ⟨rfl, _, List.getLast?_concat, hlast⟩⟩
      | panicked message =>
          rw [Play.bind_of_ok (by rw [Play.attempt, hsteps])]
          exact ⟨_, hlog, scenarioCalls_of_broken hmade htrace, by rintro _ ⟨⟩ ⟨⟩,
            fun h => absurd h hlossless, .inl ⟨_, rfl⟩⟩

/-- Without a connection nothing is asked for a scenario, and nothing but the time changes. -/
theorem scenario_trace_of_not_connected {w : World σ} (hw : w.state ≠ .connected) (s : Scenario) :
    (∃ t, (scenario b tools url pause s none w).2 = { w with now := t }) ∧
      ScenarioTrace tools url s [] (scenario b tools url pause s none w) := by
  obtain ⟨r, t, hscenario, hr⟩ := scenario_of_not_connected b tools url pause hw s
  rw [hscenario]
  refine ⟨⟨t, rfl⟩, scenarioCalls_nil tools url s, ?_, by rintro ⟨_, ⟨⟩, -⟩, .inl ⟨r, rfl⟩⟩
  rintro _ ⟨⟩ hok
  refine stepsCalls_of_unrecognized tools url (fun t ht => ?_) 0
  by_contra hrecognized
  have hdegraded := hr.degraded_iff.2 ⟨t, ht, Bool.not_eq_false _ ▸ hrecognized⟩
  cases ho : r.outcome with
  | ok => rw [ho] at hdegraded; cases hdegraded
  | degraded => rw [ho] at hok; cases hok

/-! ### Scenarios, one after the other -/

/-- The calls made for each of the scenarios. -/
def callsOfScenarios (all : List Scenario) (w : World σ) : List (List Event) :=
  (List.range all.length).map (callsOfScenario b tools url pause none all · w)

section

variable {b tools url pause} {s : Scenario} {rest : List Scenario} {w u : World σ}

theorem afterScenarios_succ_of_ok {r : ScenarioRepair}
    (h : scenario b tools url pause s none w = (.ok r, u)) (k : Nat) :
    afterScenarios b tools url pause none (s :: rest) (k + 1) w =
      afterScenarios b tools url pause none rest k u := by
  rw [afterScenarios, List.take_succ_cons, scenarios, Play.bind_of_ok h,
    Play.bind_world fun _ _ _ => rfl, afterScenarios]

theorem afterScenarios_succ_of_error {i : Interrupt}
    (h : scenario b tools url pause s none w = (.error i, u)) (k : Nat) :
    afterScenarios b tools url pause none (s :: rest) (k + 1) w = u := by
  rw [afterScenarios, List.take_succ_cons, scenarios, Play.bind_of_error h]

/-- The calls made for the first scenario, and then those made for the others in the world that it
leaves. -/
theorem callsOfScenarios_cons_of_ok {r : ScenarioRepair} {calls : List Event}
    (h : scenario b tools url pause s none w = (.ok r, u)) (hlog : u.log = w.log ++ calls) :
    callsOfScenarios b tools url pause (s :: rest) w =
      calls :: callsOfScenarios b tools url pause rest u := by
  rw [callsOfScenarios, List.length_cons, List.range_succ_eq_map, List.map_cons, List.map_map,
    callsOfScenarios]
  congr 1
  · rw [callsOfScenario, afterScenarios_succ_of_ok h]
    change u.log.drop w.log.length = calls
    rw [hlog, List.drop_left]
  · refine List.map_congr_left fun k _ => ?_
    rw [Function.comp_apply, callsOfScenario, Nat.succ_eq_add_one, afterScenarios_succ_of_ok h,
      afterScenarios_succ_of_ok h, callsOfScenario]

/-- If the first scenario never ends, no calls are made for the others. -/
theorem callsOfScenarios_cons_of_error {i : Interrupt} {calls : List Event}
    (h : scenario b tools url pause s none w = (.error i, u)) (hlog : u.log = w.log ++ calls) :
    callsOfScenarios b tools url pause (s :: rest) w =
      calls :: List.replicate rest.length [] := by
  rw [callsOfScenarios, List.length_cons, List.range_succ_eq_map, List.map_cons, List.map_map]
  congr 1
  · rw [callsOfScenario, afterScenarios_succ_of_error h]
    change u.log.drop w.log.length = calls
    rw [hlog, List.drop_left]
  · refine List.eq_replicate_iff.2 ⟨by simp, fun calls hcalls => ?_⟩
    obtain ⟨k, -, rfl⟩ := List.mem_map.1 hcalls
    rw [Function.comp_apply, callsOfScenario, Nat.succ_eq_add_one, afterScenarios_succ_of_error h,
      afterScenarios_succ_of_error h, List.drop_length]

end

/-- What comes of the calls that were made for scenarios, one after the other. -/
structure ScenariosTrace (tools : Toolbox) (url : String) (all : List Scenario)
    (traces : List (List Event)) (result : Except Interrupt (List ScenarioRepair)) : Prop where
  /-- For each scenario in order, the first of the calls prescribed for it. -/
  each : List.Forall₂ (ScenarioCalls tools url) all traces
  /-- For every scenario after a loss, none. -/
  silent : traces.Pairwise fun before after => (∃ e ∈ before, e.isLoss = true) → after = []
  /-- For every scenario that was replayed, all. -/
  whole : ∀ rs, result = .ok rs → ∀ (k : Nat) (s : Scenario) (calls : List Event)
    (r : ScenarioRepair), all[k]? = some s → traces[k]? = some calls → rs[k]? = some r →
      r.outcome.isOk = true → StepsCalls tools url 0 s.steps calls
  /-- Only a call that never comes back keeps the scenarios from their end. -/
  ends : (∃ rs, result = .ok rs) ∨
    result = .error .cut ∧ ∃ e, traces.flatten.getLast? = some e ∧ e.interrupt? = some .cut

/-- Where a scenario never ends, the ones after it have no calls. -/
theorem scenariosTrace_of_cut {s : Scenario} {calls : List Event} {e : Event}
    (h : ScenarioCalls tools url s calls) (he : calls.getLast? = some e)
    (hcut : e.interrupt? = some .cut) (rest : List Scenario) :
    ScenariosTrace tools url (s :: rest) (calls :: List.replicate rest.length [])
      (.error .cut) := by
  have hrest : List.Forall₂ (ScenarioCalls tools url) rest (List.replicate rest.length []) := by
    induction rest with
    | nil => exact .nil
    | cons t rest ih => exact .cons (scenarioCalls_nil tools url t) ih
  have hflat : (calls :: List.replicate rest.length []).flatten = calls := by simp
  refine ⟨.cons h hrest, List.pairwise_cons.2 ⟨fun after hafter _ => ?_, ?_⟩, by rintro _ ⟨⟩,
    .inr ⟨rfl, e, by rw [hflat, he], hcut⟩⟩
  · exact List.eq_of_mem_replicate hafter
  · exact List.pairwise_replicate.2 (.inr fun _ => rfl)

/-- The calls made for a scenario come before those made for the ones after it. -/
theorem scenariosTrace_cons {s : Scenario} {rest : List Scenario} {calls : List Event}
    {traces : List (List Event)} {r : ScenarioRepair} {w : World σ}
    {result : Except Interrupt (List ScenarioRepair)}
    (h : ScenarioTrace tools url s calls (.ok r, w))
    (hsilent : w.state ≠ .connected → ∀ calls ∈ traces, calls = [])
    (hrest : ScenariosTrace tools url rest traces result) :
    ScenariosTrace tools url (s :: rest) (calls :: traces) (result.map (r :: ·)) := by
  refine ⟨.cons h.asked hrest.each, List.pairwise_cons.2 ⟨fun after hafter hloss => ?_,
    hrest.silent⟩, ?_, ?_⟩
  · exact hsilent (h.lost hloss) after hafter
  · intro rs hrs k s' calls' r' hs hcalls hr hok
    cases result with
    | error i => cases hrs
    | ok rs' =>
        cases hrs
        cases k with
        | zero =>
            obtain rfl : s = s' := by simpa using hs
            obtain rfl : calls = calls' := by simpa using hcalls
            obtain rfl : r = r' := by simpa using hr
            exact h.whole r rfl hok
        | succ k => exact hrest.whole rs' rfl k s' calls' r' hs hcalls hr hok
  · rcases hrest.ends with ⟨rs, rfl⟩ | ⟨rfl, e, he, hcut⟩
    · exact .inl ⟨r :: rs, rfl⟩
    · refine .inr ⟨rfl, e, ?_, hcut⟩
      rw [List.flatten_cons, List.getLast?_append, he, Option.some_or]

/-- A scenario has its trace in every world, an empty one without a connection, which the scenario
does not bring back. -/
theorem exists_scenarioTrace (s : Scenario) (w : World σ) :
    ∃ calls, (scenario b tools url pause s none w).2.log = w.log ++ calls ∧
      (w.state ≠ .connected → calls = [] ∧
        (scenario b tools url pause s none w).2.state ≠ .connected) ∧
      ScenarioTrace tools url s calls (scenario b tools url pause s none w) := by
  by_cases hw : w.state = .connected
  · obtain ⟨calls, hlog, htrace⟩ := scenario_trace b tools url pause hw s
    exact ⟨calls, hlog, fun h => absurd hw h, htrace⟩
  · obtain ⟨⟨t, ht⟩, htrace⟩ := scenario_trace_of_not_connected b tools url pause hw s
    exact ⟨[], by rw [ht, List.append_nil], fun _ => ⟨rfl, by rw [ht]; exact hw⟩, htrace⟩

/-- **The trace of scenarios**, one after the other. Without a connection it is empty. -/
theorem scenarios_trace (all : List Scenario) (w : World σ) :
    let traces := callsOfScenarios b tools url pause all w
    (scenarios b tools url pause all none w).2.log = w.log ++ traces.flatten ∧
    (w.state ≠ .connected → ∀ calls ∈ traces, calls = []) ∧
    ScenariosTrace tools url all traces (scenarios b tools url pause all none w).1 := by
  intro traces
  induction all generalizing w with
  | nil =>
      refine ⟨(List.append_nil _).symm, fun _ _ h => (List.not_mem_nil h).elim, .nil, .nil, ?_,
        .inl ⟨[], rfl⟩⟩
      rintro _ - k s calls r ⟨⟩
  | cons s rest ih =>
      obtain ⟨calls, hlog, hsilent, htrace⟩ := exists_scenarioTrace b tools url pause s w
      rcases hscenario : scenario b tools url pause s none w with ⟨i | r, u⟩
      · rw [hscenario] at hlog hsilent htrace
        have htraces : traces = calls :: List.replicate rest.length [] :=
          callsOfScenarios_cons_of_error hscenario hlog
        obtain ⟨r, hr⟩ | ⟨hi, e, he, hcut⟩ := htrace.ends
        · cases hr
        · cases hi
          rw [htraces, scenarios, Play.bind_of_error hscenario]
          refine ⟨by simpa using hlog, fun hw => ?_,
            scenariosTrace_of_cut tools url htrace.asked he hcut rest⟩
          rw [(hsilent hw).1] at he
          cases he
      · rw [hscenario] at hlog hsilent htrace
        have htraces : traces = calls :: callsOfScenarios b tools url pause rest u :=
          callsOfScenarios_cons_of_ok hscenario hlog
        obtain ⟨hrestLog, hrestSilent, hrest⟩ := ih u
        rw [htraces, scenarios, Play.bind_of_ok hscenario]
        refine ⟨?_, fun hw => ?_, ?_⟩
        · rw [Play.bind_world fun _ _ _ => rfl, hrestLog, hlog, List.flatten_cons,
            List.append_assoc]
        · rw [List.forall_mem_cons]
          exact ⟨(hsilent hw).1, hrestSilent (hsilent hw).2⟩
        · have hcons := scenariosTrace_cons tools url htrace hrestSilent hrest
          rcases hrun : scenarios b tools url pause rest none u with ⟨i | rs, v⟩
          · rw [hrun] at hcons
            rw [Play.bind_of_error hrun]
            exact hcons
          · rw [hrun] at hcons
            rw [Play.bind_of_ok hrun]
            exact hcons

/-! ### Repairs -/

/-- **The trace of a repair**: after the connect, what is asked for each of the scenarios, and then
the close. -/
structure RepairTrace (tools : Toolbox) (url : String) (all : List Scenario)
    (traces : List (List Event)) (closing : List Event) (result : Except Interrupt RepairReport) :
    Prop where
  /-- For each scenario in order, the first of the calls prescribed for it, up to a call that breaks
  it off. -/
  each : List.Forall₂ (ScenarioCalls tools url) all traces
  /-- For every scenario after a loss, none. -/
  silent : traces.Pairwise fun before after => (∃ e ∈ before, e.isLoss = true) → after = []
  /-- For every scenario that was replayed, all. -/
  whole : ∀ report, result = .ok report → ∀ (k : Nat) (s : Scenario) (calls : List Event)
    (r : ScenarioRepair), all[k]? = some s → traces[k]? = some calls →
      report.entries[k]? = some r → r.outcome.isOk = true → StepsCalls tools url 0 s.steps calls
  /-- One close, unless the last call never comes back. -/
  closes : (∃ at_ reaction, closing = [.close at_ reaction]) ∨
    closing = [] ∧ result = .error .cut ∧
      ∃ e, traces.flatten.getLast? = some e ∧ e.interrupt? = some .cut

/-- **The trace of a repair without a limit**, in a session that has not begun, with a backend whose
connect succeeds. -/
theorem unlimited_trace {s : σ} {delay : Nat} (h : (b.connect s).2 = .after delay (.ok ()))
    (all : List Scenario) :
    let run := unlimited b tools pause url all none (.start s)
    let traces := callsOfScenarios b tools url pause all (Session.connect b none (.start s)).2
    ∃ closing, run.2.log = .connect 0 (.after delay (.ok ())) :: (traces.flatten ++ closing) ∧
      RepairTrace tools url all traces closing run.1 := by
  intro run traces
  obtain ⟨u, hconnect, hopening, hu⟩ : ∃ u, Session.connect b none (.start s) = (.ok true, u) ∧
      u.log = [.connect 0 (.after delay (.ok ()))] ∧ Unreleased u :=
    ⟨_, Session.connect_start b h, rfl, by rintro ⟨⟩, rfl, by simp [Event.kind]⟩
  have htraces : traces = callsOfScenarios b tools url pause all u := by
    simp only [traces, hconnect]
  obtain ⟨hlog, -, htrace⟩ := scenarios_trace b tools url pause all u
  have hunreleased : Unreleased (scenarios b tools url pause all none u).2 :=
    scenarios_of_call Session.unreleased_compositional (Session.call_unreleased b) tools url pause
      all none u hu
  rw [← htraces] at hlog htrace
  rw [hopening] at hlog
  rcases hall : scenarios b tools url pause all none u with ⟨i | rs, v⟩
  · rw [hall] at hlog htrace
    have hrun : run = (.error i, v) := by
      change unlimited b tools pause url all none (.start s) = _
      rw [unlimited, Play.bind_of_ok hconnect, if_pos rfl, Play.bind_of_error hall]
    rw [hrun]
    obtain ⟨rs, ⟨⟩⟩ | ⟨hi, hlast⟩ := htrace.ends
    exact ⟨[], by rw [List.append_nil]; exact hlog, htrace.each, htrace.silent, by rintro _ ⟨⟩,
      .inr ⟨rfl, congrArg Except.error (Except.error.inj hi), hlast⟩⟩
  · rw [hall] at hlog htrace hunreleased
    have hrun : run =
        (do Session.disconnect b; return ⟨true, rs⟩ : Play σ RepairReport) none v :=
      unlimited_of_scenarios_ok hconnect hall
    rw [hrun]
    refine ⟨[.close v.now (b.close v.backend).2], ?_, htrace.each, htrace.silent,
      fun report hreport => ?_, .inl ⟨_, _, rfl⟩⟩
    · rw [Play.bind_log fun _ _ _ => rfl,
        Session.disconnect_log_of_attempted b none hunreleased.notClosed hunreleased.attempted,
        hlog]
      rfl
    · rw [eq_of_closing_ok (Prod.ext hreport rfl)]
      exact htrace.whole rs rfl

/-- The calls made for the scenarios of the sample that loses the connection. -/
def choresCalls : List (List Event) :=
  callsOfScenarios .playback .bySelector "https://x.test" 0 chores
    (Session.connect .playback none (.start answersThenGone)).2

/-- The second scenario is broken off by the loss of the connection at its second call, and nothing
but the close is asked for after it. -/
theorem unlimited_trace_chores :
    ∃ closing, (unlimited .playback .bySelector 0 "https://x.test" chores none
        (.start answersThenGone)).2.log =
        .connect 0 (.after 1 (.ok ())) :: (choresCalls.flatten ++ closing) ∧
      RepairTrace .bySelector "https://x.test" chores choresCalls closing
        (unlimited .playback .bySelector 0 "https://x.test" chores none
          (.start answersThenGone)).1 ∧
      choresCalls.map (·.map (·.isLoss)) = [[false, false], [false, true], [], [], []] := by
  have hconnects : (Backend.playback.connect answersThenGone).2 = .after 1 (.ok ()) := rfl
  obtain ⟨closing, hlog, htrace⟩ :=
    unlimited_trace .playback .bySelector "https://x.test" 0 hconnects chores
  exact ⟨closing, hlog, htrace, by decide +kernel⟩

end Scenarist.Repair
