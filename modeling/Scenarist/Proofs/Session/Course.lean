import Scenarist.Session.Basic

/-!
# Courses of Events That Come to Their End

A `Play` threads a world through requests that may be cut short by a deadline or a panic. This
module inverts the plays that **end**, `p d w = (.ok a, w')`: a sequence ends exactly when its
parts end one after another (`bind_eq_ok_iff`), a question to the backend ends exactly when the
answer is there before the deadline, and leaves one event in the log (`ask_eq_ok_iff`).

From these follow the inversions of the operations of a session. A call that is answered adds
exactly one event to the log, the call itself with its answer; checking a selector and executing
a step are one such call each, and their results are read off the answer.

However a play is interrupted, what is in the log stays there (`Play.Appends`): the log of a run
begins with the log of each of its parts. This is one of the invariants that are kept by what is
put together from courses that keep them (`Play.Keeps`), and these are properties for which it is
enough to look at the calls (`Play.Compositional`).

## Main results

* `Play.bind_eq_ok_iff`, `Play.ask_eq_ok_iff`: inversion of sequences and of questions.
* `Play.Compositional`: what a property has to do with each way of putting plays together.
* `Play.keeps_compositional`: what holds of the world at all times is kept.
* `Play.Appends`, the property that nothing is taken from the log.
* `Session.call_answered`: an answered call is the next event of the log.
* `Session.validateSelector_answered`, `Session.executeStep_answered`: the same for the two
  operations that a replay is made of.
-/

namespace Scenarist

/-- A backend that plays back what it is given: each call takes the next reaction, and a call
beyond the last one never comes back. -/
def Backend.playback : Backend (List (Timed CallEnd)) where
  connect reactions := (reactions, .after 1 (.ok ()))
  call
    | [], _, _ => ([], .never)
    | reaction :: rest, _, _ => (rest, reaction)
  close reactions := (reactions, .after 1 ())

namespace Play

variable {σ α β : Type} {d : Option Nat} {w w' : World σ}

/-- A course that only gives a result leaves the world as it is. -/
theorem pure_eq_ok_iff {a b : α} :
    (pure a : Play σ α) d w = (.ok b, w') ↔ b = a ∧ w' = w := by
  change (Except.ok a, w) = (Except.ok b, w') ↔ _
  simp only [Prod.mk.injEq, Except.ok.injEq, eq_comm]

/-- **Inversion of a sequence**: it ends exactly when its first part ends, and the second part
ends from there. -/
theorem bind_eq_ok_iff {p : Play σ α} {f : α → Play σ β} {b : β} :
    (p >>= f) d w = (.ok b, w') ↔ ∃ a u, p d w = (.ok a, u) ∧ f a d u = (.ok b, w') := by
  change andThen p f d w = _ ↔ _
  rw [andThen]
  rcases p d w with ⟨_ | a, u⟩
  · simp
  · constructor
    · exact fun h => ⟨a, u, rfl, h⟩
    · rintro ⟨_, _, hau, h⟩
      cases hau
      exact h

/-- A first part that ends goes on with the second part. -/
theorem bind_of_ok {p : Play σ α} {f : α → Play σ β} {a : α} {u : World σ}
    (h : p d w = (.ok a, u)) : (p >>= f) d w = f a d u := by
  change andThen p f d w = _
  rw [andThen, h]

/-- A first part that is interrupted interrupts the sequence. -/
theorem bind_of_error {p : Play σ α} {f : α → Play σ β} {i : Interrupt} {u : World σ}
    (h : p d w = (.error i, u)) : (p >>= f) d w = (.error i, u) := by
  change andThen p f d w = _
  rw [andThen, h]

/-- Sequences can be regrouped, and an empty part can be left out. -/
instance : LawfulMonad (Play σ) := by
  refine LawfulMonad.mk' _ (fun p => ?_) (fun _ _ => rfl) fun p f g => ?_
  · funext d w
    change andThen p done d w = _
    rw [andThen]
    rcases p d w with ⟨_ | _, _⟩ <;> rfl
  · funext d w
    change andThen (andThen p f) g d w = andThen p (fun a => andThen (f a) g) d w
    rw [andThen, andThen, andThen]
    rcases p d w with ⟨_ | _, _⟩ <;> rfl

/-- Looking goes on with the world as it is. -/
theorem look_bind (f : World σ → Play σ β) : (look >>= f) d w = f w d w := rfl

/-- A change takes effect at once. -/
theorem change_bind (g : World σ → World σ) (f : Unit → Play σ β) :
    (change g >>= f) d w = f () d (g w) := rfl

/-- What ends an awaited event: it comes after some delay, before the deadline if there is one,
and nothing but the time changes. -/
theorem await_eq_ok_iff {t : Timed α} {a : α} :
    await t d w = (.ok a, w') ↔
      ∃ delay, t = .after delay a ∧ (∀ m, d = some m → w.now + delay ≤ m) ∧
        w' = { w with now := w.now + delay } := by
  rcases t with _ | ⟨delay, x⟩ <;> rcases d with _ | m
  · simp [await]
  · simp [await]
  · constructor
    · intro h
      cases h
      exact ⟨delay, rfl, by simp, rfl⟩
    · rintro ⟨_, ht, -, rfl⟩
      cases ht
      rfl
  · by_cases hm : m < w.now + delay
    · have hle : ¬ w.now + delay ≤ m := by omega
      simp [await, hm, hle]
    · simp only [await, if_neg hm]
      constructor
      · intro h
        cases h
        exact ⟨delay, rfl, fun _ hd => by cases hd; omega, rfl⟩
      · rintro ⟨_, ht, -, rfl⟩
        cases ht
        rfl

/-- **Inversion of a question**: the backend changes to its next state, the question with its
reaction is the next event of the log, and the time of the reaction passes. -/
theorem ask_eq_ok_iff {request : σ → σ × Timed α} {event : Nat → Timed α → Event} {a : α} :
    ask request event d w = (.ok a, w') ↔
      ∃ b delay, request w.backend = (b, .after delay a) ∧
        (∀ m, d = some m → w.now + delay ≤ m) ∧
        w' = { w with
          backend := b
          now := w.now + delay
          log := w.log ++ [event w.now (.after delay a)] } := by
  rw [ask]
  rcases hr : request w.backend with ⟨b, t⟩
  simp only [await_eq_ok_iff, Prod.mk.injEq]
  constructor
  · rintro ⟨delay, rfl, hm, rfl⟩
    exact ⟨b, delay, ⟨rfl, rfl⟩, hm, rfl⟩
  · rintro ⟨_, delay, ⟨rfl, rfl⟩, hm, rfl⟩
    exact ⟨delay, rfl, hm, rfl⟩

/-- A pause that ends has changed nothing but the time. -/
theorem sleep_eq_ok {ms : Nat} {a : Unit} (h : sleep ms d w = (.ok a, w')) :
    w' = { w with now := w.now + ms } := by
  obtain ⟨delay, hd, -, rfl⟩ := await_eq_ok_iff.1 h
  cases hd
  rfl

/-- An attempt ends with a value exactly when the course it attempts ends with it. -/
theorem attempt_eq_ok_ok_iff {p : Play σ α} {a : α} :
    attempt p d w = (.ok (.ok a), w') ↔ p d w = (.ok a, w') := by
  rw [attempt]
  rcases p d w with ⟨(_ | _) | _, u⟩ <;> simp

end Play

/-! ### Properties of sequences -/

namespace Play

variable {σ : Type}

/-- A property of courses is **compositional** if it holds of those that make no request, and of
a course that is put together from others whenever it holds of these. -/
structure Compositional (P : ∀ α : Type, Play σ α → Prop) : Prop where
  ofPure : ∀ {α : Type} (a : α), P α (pure a)
  ofLook : P (World σ) look
  ofSleep : ∀ ms, P Unit (sleep ms)
  ofBind : ∀ {α β : Type} {p : Play σ α} {f : α → Play σ β}, P α p → (∀ a, P β (f a)) →
    P β (p >>= f)
  ofAttempt : ∀ {α : Type} {p : Play σ α}, P α p → P (Except (Option String) α) (attempt p)

end Play

namespace Session

variable {σ : Type} {P : ∀ α : Type, Play σ α → Prop} {b : Backend σ}

/-- What connecting is put together from. -/
theorem connect_of_ask (hP : Play.Compositional P)
    (hbegin : P _ (Play.change fun w => { w with state := .connecting, attempted := true }))
    (hask : P _ (Play.ask b.connect .connect))
    (hend : ∀ s, P _ (Play.change fun w => { w with state := s })) : P _ (connect b) := by
  refine hP.ofBind hP.ofLook fun w => ?_
  split
  · exact hP.ofPure true
  · exact hP.ofPure false
  · refine hP.ofBind hbegin fun _ => hP.ofBind hask fun r => ?_
    split
    · exact hP.ofBind (hend .connected) fun _ => hP.ofPure true
    · exact hP.ofBind (hend .disconnected) fun _ => hP.ofPure false

/-- What closing is put together from. -/
theorem disconnect_of_ask (hP : Play.Compositional P) (hask : P _ (Play.ask b.close .close))
    (hend : P _ (Play.change fun w => { w with state := .closed })) : P _ (disconnect b) := by
  refine hP.ofBind hP.ofLook fun w => ?_
  split
  · exact hP.ofPure ()
  · split
    · exact hP.ofBind hask fun _ => hend
    · exact hend

/-- What the call of a tool is put together from. -/
theorem call_of_ask (hP : Play.Compositional P) (tool : String) (arguments : Json)
    (hask : P _ (Play.ask (b.call · tool arguments) (.call · tool arguments ·)))
    (hlost : P _ (Play.change fun w => { w with state := .disconnected }))
    (hpanic : ∀ {α : Type} message, P α (Play.interrupt (.panicked message))) :
    P _ (call b tool arguments) := by
  refine hP.ofBind hP.ofLook fun w => ?_
  split
  · refine hP.ofBind hask fun r => ?_
    split
    · exact hpanic _
    · exact hP.ofBind hlost fun _ => hP.ofPure _
    · exact hP.ofBind hlost fun _ => hP.ofPure _
    · exact hP.ofPure _
  · exact hP.ofPure _

/-- A property that calls have is one of executing a step. -/
theorem executeStep_of_call (hP : Play.Compositional P)
    (hcall : ∀ tool arguments, P _ (call b tool arguments)) (tools : Toolbox) (action : Action)
    (target : String) (data : Option String) : P _ (executeStep b tools action target data) := by
  rw [executeStep]
  split
  · exact hP.ofPure _
  · refine hP.ofBind hP.ofLook fun before => ?_
    refine hP.ofBind (hcall _ _) fun r => ?_
    split
    · exact hP.ofPure _
    · exact hP.ofBind hP.ofLook fun after => hP.ofPure _

/-- A property that calls have is one of checking a selector. -/
theorem validateSelector_of_call (hP : Play.Compositional P)
    (hcall : ∀ tool arguments, P _ (call b tool arguments)) (tools : Toolbox) (target : String) :
    P _ (validateSelector b tools target) := by
  refine hP.ofBind (hcall _ _) fun r => ?_
  split
  · exact hP.ofPure _
  · exact hP.ofPure _

end Session

/-! ### Invariants -/

namespace Play

variable {σ α β : Type} {I : World σ → Prop}

/-- The course **keeps** what holds of the world, however it goes. -/
def Keeps (I : World σ → Prop) (p : Play σ α) : Prop := ∀ d w, I w → I (p d w).2

/-- A course that only gives a result keeps every invariant. -/
theorem keeps_pure (a : α) : Keeps I (pure a) := fun _ _ h => h

/-- A look at the world keeps every invariant. -/
theorem keeps_look : Keeps I look := fun _ _ h => h

/-- An interrupt keeps every invariant. -/
theorem keeps_interrupt (i : Interrupt) : Keeps I (interrupt i : Play σ α) := fun _ _ h => h

/-- A change keeps what it preserves. -/
theorem keeps_change {f : World σ → World σ} (hf : ∀ w, I w → I (f w)) : Keeps I (change f) :=
  fun _ w h => hf w h

/-- A sequence keeps what its parts keep. -/
theorem keeps_bind {p : Play σ α} {f : α → Play σ β} (hp : Keeps I p) (hf : ∀ a, Keeps I (f a)) :
    Keeps I (p >>= f) := by
  intro d w hw
  have hfirst := hp d w hw
  rcases hpw : p d w with ⟨i | a, u⟩
  · rw [hpw] at hfirst
    rw [bind_of_error hpw]
    exact hfirst
  · rw [hpw] at hfirst
    rw [bind_of_ok hpw]
    exact hf a d u hfirst

/-- Turning a panic into a value leaves the world as it is. -/
theorem attempt_world (p : Play σ α) (d : Option Nat) (w : World σ) :
    (attempt p d w).2 = (p d w).2 := by
  rw [attempt]
  rcases p d w with ⟨(_ | _) | _, u⟩ <;> rfl

/-- An attempt keeps what the course keeps that is attempted. -/
theorem keeps_attempt {p : Play σ α} (hp : Keeps I p) : Keeps I (attempt p) := by
  intro d w hw
  rw [attempt_world]
  exact hp d w hw

/-- Waiting changes nothing but the time, also where it is cut short. -/
theorem await_world (t : Timed α) (d : Option Nat) (w : World σ) :
    ∃ now, (await t d w).2 = { w with now := now } := by
  simp only [await]
  split
  · exact ⟨_, rfl⟩
  · exact ⟨w.now, rfl⟩
  · split <;> exact ⟨_, rfl⟩
  · exact ⟨_, rfl⟩

/-- Nothing is asked for while time passes. -/
theorem await_log (t : Timed α) (d : Option Nat) (w : World σ) : (await t d w).2.log = w.log := by
  obtain ⟨now, hnow⟩ := await_world t d w
  rw [hnow]

/-- What is asked is in the log, however long the reaction takes. -/
theorem ask_world (request : σ → σ × Timed α) (event : Nat → Timed α → Event) (d : Option Nat)
    (w : World σ) :
    ∃ now, (ask request event d w).2 = { w with
      backend := (request w.backend).1
      now := now
      log := w.log ++ [event w.now (request w.backend).2] } := by
  obtain ⟨now, hnow⟩ := await_world (request w.backend).2 d { w with
    backend := (request w.backend).1
    log := w.log ++ [event w.now (request w.backend).2] }
  exact ⟨now, hnow⟩

/-- A question is logged with its answer, also where the answer is not waited for. -/
theorem ask_log (request : σ → σ × Timed α) (event : Nat → Timed α → Event) (d : Option Nat)
    (w : World σ) :
    (ask request event d w).2.log = w.log ++ [event w.now (request w.backend).2] := by
  obtain ⟨now, hnow⟩ := ask_world request event d w
  rw [hnow]

/-- What comes last in a sequence and asks for nothing adds nothing to the log. -/
theorem bind_log {p : Play σ α} {f : α → Play σ β} (hf : ∀ a d w, (f a d w).2.log = w.log)
    (d : Option Nat) (w : World σ) : ((p >>= f) d w).2.log = (p d w).2.log := by
  rcases hpw : p d w with ⟨i | a, u⟩
  · rw [bind_of_error hpw]
  · rw [bind_of_ok hpw]
    exact hf a d u

/-- What comes last in a sequence and does nothing leaves the world of its first part. -/
theorem bind_world {p : Play σ α} {f : α → Play σ β} (hf : ∀ a d w, (f a d w).2 = w)
    (d : Option Nat) (w : World σ) : ((p >>= f) d w).2 = (p d w).2 := by
  rcases hpw : p d w with ⟨i | a, u⟩
  · rw [bind_of_error hpw]
  · rw [bind_of_ok hpw]
    exact hf a d u

/-- **What holds at all times is kept** by what is put together from courses that keep it. -/
theorem keeps_compositional (hI : ∀ w now, I w → I { w with now := now }) :
    Compositional fun (α : Type) (p : Play σ α) => p.Keeps I where
  ofPure := keeps_pure
  ofLook := keeps_look
  ofSleep ms d w hw := by
    obtain ⟨now, hnow⟩ := await_world (.after ms ()) d w
    change I (await (.after ms ()) d w).2
    rw [hnow]
    exact hI w now hw
  ofBind := keeps_bind
  ofAttempt := keeps_attempt

/-! ### The log only grows -/

/-- However the course of events goes, it **appends** to the log and takes nothing from it. -/
def Appends (p : Play σ α) : Prop := ∀ d w, w.log <+: (p d w).2.log

/-- To append is to keep every beginning of the log. -/
theorem appends_iff_keeps {p : Play σ α} :
    Appends p ↔ ∀ log, Keeps (fun w => log <+: w.log) p := by
  constructor
  · exact fun hp log d w hlog => hlog.trans (hp d w)
  · exact fun hp d w => hp w.log d w (List.prefix_refl _)

/-- An interrupt adds nothing to the log. -/
theorem appends_interrupt (i : Interrupt) : Appends (interrupt i : Play σ α) :=
  appends_iff_keeps.2 fun _ => keeps_interrupt i

/-- A change that leaves the log alone adds nothing to it. -/
theorem appends_change {f : World σ → World σ} (hf : ∀ w, (f w).log = w.log) :
    Appends (change f) :=
  appends_iff_keeps.2 fun _ => keeps_change fun w hlog => (hf w).symm ▸ hlog

/-- A question adds to the log only. -/
theorem appends_ask (request : σ → σ × Timed α) (event : Nat → Timed α → Event) :
    Appends (ask request event) := by
  intro d w
  rw [ask_log]
  exact List.prefix_append _ _

/-- What is put together from parts that add to the log only does so. -/
theorem appends_compositional : Compositional fun (α : Type) (p : Play σ α) => p.Appends := by
  have hkeeps (log : List Event) := keeps_compositional (I := fun w : World σ => log <+: w.log)
    fun _ _ hlog => hlog
  simp only [appends_iff_keeps]
  exact ⟨fun a log => (hkeeps log).ofPure a, fun log => (hkeeps log).ofLook,
    fun ms log => (hkeeps log).ofSleep ms,
    fun hp hf log => (hkeeps log).ofBind (hp log) fun a => hf a log,
    fun hp log => (hkeeps log).ofAttempt (hp log)⟩

end Play

/-! ### The operations of a session -/

namespace Session

variable {σ : Type} {b : Backend σ} {d : Option Nat} {w w' : World σ}

/-- A call that is answered was made in a connected session, and is the next event of the log. -/
theorem call_answered {tool : String} {arguments : Json} {reply : Except Failure ToolReply}
    (h : call b tool arguments d w = (.ok (.ok reply), w')) :
    w.state = .connected ∧ ∃ delay,
      w'.log = w.log ++ [.call w.now tool arguments (.after delay (.answered reply))] := by
  simp only [call, Play.look_bind] at h
  split at h
  · next hc =>
    refine ⟨hc, ?_⟩
    obtain ⟨r, u, hask, hr⟩ := Play.bind_eq_ok_iff.1 h
    obtain ⟨_, delay, -, -, rfl⟩ := Play.ask_eq_ok_iff.1 hask
    split at hr
    · simp [Play.interrupt] at hr
    · simp [Play.change_bind, Play.pure_eq_ok_iff] at hr
    · simp [Play.change_bind, Play.pure_eq_ok_iff] at hr
    · obtain ⟨hr, rfl⟩ := Play.pure_eq_ok_iff.1 hr
      cases hr
      exact ⟨delay, rfl⟩
  · simp [Play.pure_eq_ok_iff] at h

/-- Checking a selector is one call of the checking tool, and the result is what the answer
means. -/
theorem validateSelector_answered {tools : Toolbox} {target : String} {v : Validation}
    (h : validateSelector b tools target d w = (.ok (.ok v), w')) :
    ∃ delay reply, v = validation target reply ∧
      w'.log = w.log ++ [.call w.now tools.validateSelector.name
        (Template.render target none tools.validateSelector.arguments)
        (.after delay (.answered reply))] := by
  obtain ⟨r, u, hcall, hr⟩ := Play.bind_eq_ok_iff.1 h
  split at hr
  · simp [Play.pure_eq_ok_iff] at hr
  · next reply =>
    obtain ⟨-, delay, hlog⟩ := call_answered hcall
    obtain ⟨hv, rfl⟩ := Play.pure_eq_ok_iff.1 hr
    cases hv
    exact ⟨delay, reply, rfl, hlog⟩

/-- Executing a step for which there is a tool is one call of that tool, and the result is what
the answer means, up to the time it took. -/
theorem executeStep_answered {tools : Toolbox} {action : Action} {target : String}
    {data : Option String} {tool : Tool} {r : StepResult}
    (htool : tools.forAction? action = some tool)
    (h : executeStep b tools action target data d w = (.ok (.ok r), w')) :
    ∃ delay reply time, r = { stepResult action target reply with executionTimeMs := time } ∧
      w'.log = w.log ++ [.call w.now tool.name (Template.render target data tool.arguments)
        (.after delay (.answered reply))] := by
  simp only [executeStep, htool, Play.look_bind] at h
  obtain ⟨_, u, hcall, hr⟩ := Play.bind_eq_ok_iff.1 h
  split at hr
  · simp [Play.pure_eq_ok_iff] at hr
  · next reply =>
    obtain ⟨-, delay, hlog⟩ := call_answered hcall
    simp only [Play.look_bind] at hr
    obtain ⟨hr, rfl⟩ := Play.pure_eq_ok_iff.1 hr
    cases hr
    exact ⟨delay, reply, _, rfl, hlog⟩

/-- Closing adds to the log only. -/
theorem disconnect_appends (b : Backend σ) : (disconnect b).Appends :=
  disconnect_of_ask Play.appends_compositional (Play.appends_ask _ _)
    (Play.appends_change fun _ => rfl)

/-- Calling a tool adds to the log only. -/
theorem call_appends (b : Backend σ) (tool : String) (arguments : Json) :
    (call b tool arguments).Appends :=
  call_of_ask Play.appends_compositional tool arguments (Play.appends_ask _ _)
    (Play.appends_change fun _ => rfl) fun _ => Play.appends_interrupt _

end Session

end Scenarist
