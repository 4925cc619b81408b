import Scenarist.Proofs.Session.Request

/-!
# What a Deadline Does

A course of events that runs under a deadline is the same course without one, as far as it gets.
If it comes to its end by the deadline, the two are equal, and if it does not, it is cut at the
deadline, with exactly those requests made that the course without a deadline makes by then
(`Play.Timely`). There is no third way: a deadline never lets a course go on differently.

Each way of putting courses together keeps this, with the times of the requests as the invariant:
what is asked while time passes is asked between the beginning and the end (`Passes`). So a part
that comes after the deadline adds nothing to what was asked before it.

## Main results

* `Play.timely_bind`, `Play.timely_ask`: sequences and questions are timely.
* `Play.timely_compositional`: and so is what is put together from timely parts.
* `Session.connect_timely`, `Session.call_timely`, `Session.disconnect_timely`: the operations of
  a session.
* `Play.Timely.of_duration_lt`, `Play.Timely.cut_of_duration`: a limit that is longer, or shorter,
  than a course takes.
* `Play.Timely.cut_iff`: a limit cuts exactly the courses that take longer.
-/

namespace Scenarist

variable {σ α β : Type}

/-- The deadline, if there is one, has not passed. -/
def Due (d : Option Nat) (w : World σ) : Prop := ∀ m, d = some m → w.now ≤ m

/-- Where there is no deadline none has passed. -/
theorem due_none (w : World σ) : Due none w := by
  intro m hm
  cases hm

/-- A deadline has not passed up to its own time. -/
theorem due_some {m : Nat} {w : World σ} : Due (some m) w ↔ w.now ≤ m := by
  constructor
  · intro h
    exact h m rfl
  · intro h _ hm
    cases hm
    exact h

/-- Time **passes** from one world to the other: what was asked on the way was asked in
between. -/
structure Passes (w w' : World σ) : Prop where
  now : w.now ≤ w'.now
  log : ∃ asked, w'.log = w.log ++ asked ∧ ∀ e ∈ asked, w.now ≤ e.time ∧ e.time ≤ w'.now

/-- Two stretches of time make up one. -/
theorem Passes.trans {u v w : World σ} (h : Passes u v) (h' : Passes v w) : Passes u w := by
  obtain ⟨first, hfirst, hbefore⟩ := h.log
  obtain ⟨second, hsecond, hafter⟩ := h'.log
  refine ⟨Nat.le_trans h.now h'.now, first ++ second, ?_, ?_⟩
  · rw [hsecond, hfirst, List.append_assoc]
  · intro e he
    rcases List.mem_append.1 he with he | he
    · exact ⟨(hbefore e he).1, Nat.le_trans (hbefore e he).2 h'.now⟩
    · exact ⟨Nat.le_trans h.now (hafter e he).1, (hafter e he).2⟩

namespace Play

/-- Without a deadline the course comes to its end by the given time, be it with a panic. -/
def EndsBy (p : Play σ α) (m : Nat) (w : World σ) : Prop :=
  (p none w).1 ≠ .error .cut ∧ (p none w).2.now ≤ m

/-- Under the deadline the course is **cut** there, with what it asks for by then. -/
def CutAt (p : Play σ α) (m : Nat) (w : World σ) : Prop :=
  ∃ v, p (some m) w = (.error .cut, v) ∧ v.now = m ∧
    ∃ later, (p none w).2.log = v.log ++ later ∧ ∀ e ∈ later, m < e.time

/-- A course is **timely** if a deadline does nothing to it but cut it. -/
structure Timely (p : Play σ α) : Prop where
  passes : ∀ d w, Due d w → Passes w (p d w).2
  met : ∀ m w, w.now ≤ m → EndsBy p m w → p (some m) w = p none w
  missed : ∀ m w, w.now ≤ m → ¬ EndsBy p m w → CutAt p m w

/-- A course under a deadline stops there at the latest. -/
theorem Timely.due {p : Play σ α} (hp : Timely p) {d : Option Nat} {w : World σ}
    (hw : Due d w) : Due d (p d w).2 := by
  rcases d with _ | m
  · exact due_none _
  · rw [due_some] at hw ⊢
    by_cases hend : EndsBy p m w
    · rw [hp.met m w hw hend]
      exact hend.2
    · obtain ⟨v, hv, hnow, -⟩ := hp.missed m w hw hend
      rw [hv]
      exact Nat.le_of_eq hnow

/-! ### Courses that take no time -/

/-- A course in which nothing is waited for does not care for the deadline. -/
theorem timely_of_instant {p : Play σ α} (hsame : ∀ d w, p d w = p none w)
    (hend : ∀ w, (p none w).1 ≠ .error .cut) (hnow : ∀ w, (p none w).2.now = w.now)
    (hlog : ∀ w, (p none w).2.log = w.log) : Timely p where
  passes d w _ := by
    rw [hsame]
    exact ⟨Nat.le_of_eq (hnow w).symm, [], by rw [hlog, List.append_nil], by simp⟩
  met m w _ _ := hsame _ w
  missed m w hw h := by
    refine absurd ⟨hend w, ?_⟩ h
    rw [hnow]
    exact hw

/-- A course that only gives a result is timely. -/
theorem timely_pure (a : α) : Timely (pure a : Play σ α) :=
  timely_of_instant (fun _ _ => rfl) (fun _ => by rintro ⟨⟩) (fun _ => rfl) fun _ => rfl

/-- A course that only looks at the world is timely. -/
theorem timely_look : Timely (look : Play σ (World σ)) :=
  timely_of_instant (fun _ _ => rfl) (fun _ => by rintro ⟨⟩) (fun _ => rfl) fun _ => rfl

/-- A course that only panics is timely. -/
theorem timely_interrupt (message : Option String) :
    Timely (interrupt (.panicked message) : Play σ α) :=
  timely_of_instant (fun _ _ => rfl) (fun _ => by rintro ⟨⟩) (fun _ => rfl) fun _ => rfl

/-- A change that leaves the time and the log alone is timely. -/
theorem timely_change {f : World σ → World σ} (hnow : ∀ w, (f w).now = w.now)
    (hlog : ∀ w, (f w).log = w.log) : Timely (change f) :=
  timely_of_instant (fun _ _ => rfl) (fun _ => by rintro ⟨⟩) hnow hlog

/-! ### Courses that wait -/

/-- Waiting is timely: nothing is asked for meanwhile. -/
theorem timely_await (t : Timed α) : Timely (await t : Play σ α) where
  passes d w hd := by
    refine ⟨?_, [], ?_, by simp⟩
    · rcases t with _ | ⟨delay, a⟩ <;> rcases d with _ | m
      · exact Nat.le_refl _
      · exact due_some.1 hd
      · exact Nat.le_add_right _ _
      · have hm := due_some.1 hd
        simp only [await]
        split <;> simp only <;> omega
    · rw [await_log, List.append_nil]
  met m w hw hend := by
    rcases t with _ | ⟨delay, a⟩
    · exact absurd rfl hend.1
    · have hm : ¬ m < w.now + delay := Nat.not_lt.2 hend.2
      simp only [await, if_neg hm]
  missed m w hw h := by
    refine ⟨{ w with now := m }, ?_, rfl, [], ?_, by simp⟩
    · rcases t with _ | ⟨delay, a⟩
      · rfl
      · have hm : m < w.now + delay := by
          refine Nat.not_le.1 fun hle => h ⟨?_, hle⟩
          rintro ⟨⟩
        simp only [await, if_pos hm]
    · rw [await_log, List.append_nil]

/-- What is asked is in the log from the moment it is asked, be the answer in time or not. -/
theorem timely_ask (request : σ → σ × Timed α) (event : Nat → Timed α → Event)
    (hevent : ∀ now t, (event now t).time = now) : Timely (ask request event) := by
  -- Asking is waiting in a world where the question is in the log already.
  let asked (w : World σ) : World σ := { w with
    backend := (request w.backend).1
    log := w.log ++ [event w.now (request w.backend).2] }
  have hask : ∀ d w, ask request event d w = await (request w.backend).2 d (asked w) :=
    fun _ _ => rfl
  have hpasses : ∀ w, Passes w (asked w) := by
    intro w
    refine ⟨Nat.le_refl _, _, rfl, fun e he => ?_⟩
    rw [List.mem_singleton.1 he, hevent]
    exact ⟨Nat.le_refl _, Nat.le_refl _⟩
  refine ⟨fun d w hd => ?_, fun m w hw hend => ?_, fun m w hw hend => ?_⟩
  · rw [hask]
    exact (hpasses w).trans ((timely_await _).passes d (asked w) hd)
  · rw [hask, hask]
    exact (timely_await _).met m (asked w) hw hend
  · rw [CutAt, hask, hask]
    exact (timely_await _).missed m (asked w) hw hend

/-! ### Courses that are put together -/

/-- Where the first part of a sequence is cut, so is the sequence: what the second part asks for, it
asks for after the deadline. -/
theorem CutAt.bind {p : Play σ α} {f : α → Play σ β} {m : Nat} {w u : World σ} {a : α}
    (h : CutAt p m w) (hpw : p none w = (.ok a, u)) (hlate : m < u.now)
    (hf : Passes u (f a none u).2) : CutAt (p >>= f) m w := by
  obtain ⟨v, hv, hnow, later, hlater, hafter⟩ := h
  obtain ⟨asked, hasked, htimes⟩ := hf.log
  rw [hpw] at hlater
  refine ⟨v, bind_of_error hv, hnow, later ++ asked, ?_, fun e he => ?_⟩
  · rw [bind_of_ok hpw, hasked, hlater, List.append_assoc]
  · rcases List.mem_append.1 he with he | he
    · exact hafter e he
    · exact Nat.lt_of_lt_of_le hlate (htimes e he).1

/-- **A sequence of timely parts is timely.** The deadline falls into the first part, or the
second one begins by it. -/
theorem timely_bind {p : Play σ α} {f : α → Play σ β} (hp : Timely p) (hf : ∀ a, Timely (f a)) :
    Timely (p >>= f) where
  passes d w hd := by
    have hfirst := hp.passes d w hd
    have hdue := hp.due hd
    rcases hpw : p d w with ⟨i | a, u⟩
    · rw [hpw] at hfirst
      rw [bind_of_error hpw]
      exact hfirst
    · rw [hpw] at hfirst hdue
      rw [bind_of_ok hpw]
      exact hfirst.trans ((hf a).passes d u hdue)
  met m w hw hend := by
    have hsame := hp.met m w hw
    rcases hpw : p none w with ⟨i | a, u⟩
    · rw [EndsBy, bind_of_error hpw] at hend
      rw [EndsBy, hpw] at hsame
      rw [bind_of_error hpw]
      refine bind_of_error (hsame ⟨fun hi => hend.1 ?_, hend.2⟩)
      cases hi
      rfl
    · rw [EndsBy, bind_of_ok hpw] at hend
      rw [EndsBy, hpw] at hsame
      have hnow : u.now ≤ m := Nat.le_trans ((hf a).passes none u (due_none u)).now hend.2
      rw [bind_of_ok hpw, bind_of_ok (hsame ⟨by rintro ⟨⟩, hnow⟩)]
      exact (hf a).met m u hnow hend
  missed m w hw hend := by
    have hsame := hp.met m w hw
    rcases hpw : p none w with ⟨i | a, u⟩
    · rw [EndsBy, bind_of_error hpw] at hend
      have hcut := hp.missed m w hw
      rw [EndsBy, CutAt, hpw] at hcut
      obtain ⟨v, hv, hlater⟩ := hcut fun h => hend ⟨fun hi => h.1 (by cases hi; rfl), h.2⟩
      rw [CutAt, bind_of_error hpw]
      exact ⟨v, bind_of_error hv, hlater⟩
    · rw [EndsBy, bind_of_ok hpw] at hend
      rw [EndsBy, hpw] at hsame
      by_cases hnow : u.now ≤ m
      · rw [CutAt, bind_of_ok hpw, bind_of_ok (hsame ⟨by rintro ⟨⟩, hnow⟩)]
        exact (hf a).missed m u hnow hend
      · have hcut : CutAt p m w := hp.missed m w hw fun h => by
          rw [EndsBy, hpw] at h
          exact hnow h.2
        exact hcut.bind hpw (Nat.not_le.1 hnow) ((hf a).passes none u (due_none u))

/-- Turning a panic into a value leaves the cuts as they are. -/
theorem attempt_eq_cut_iff {p : Play σ α} {d : Option Nat} {w : World σ} :
    (attempt p d w).1 = .error .cut ↔ (p d w).1 = .error .cut := by
  rw [attempt]
  rcases p d w with ⟨(_ | _) | _, u⟩ <;> simp

/-- An attempt comes to its end when the course does that is attempted. -/
theorem attempt_endsBy_iff {p : Play σ α} {m : Nat} {w : World σ} :
    EndsBy (attempt p) m w ↔ EndsBy p m w := by
  rw [EndsBy, EndsBy, attempt_world, Ne, attempt_eq_cut_iff]

/-- An attempt is timely if the course is that is attempted: a panic is caught, and a cut is not. -/
theorem timely_attempt {p : Play σ α} (hp : Timely p) : Timely (attempt p) where
  passes d w hd := by
    rw [attempt_world]
    exact hp.passes d w hd
  met m w hw hend := by
    rw [attempt, attempt, hp.met m w hw (attempt_endsBy_iff.1 hend)]
  missed m w hw hend := by
    obtain ⟨v, hv, hlater⟩ := hp.missed m w hw fun h => hend (attempt_endsBy_iff.2 h)
    rw [CutAt, attempt_world]
    exact ⟨v, by rw [attempt, hv], hlater⟩

/-- **What is put together from timely parts is timely.** -/
theorem timely_compositional : Compositional fun (α : Type) (p : Play σ α) => p.Timely :=
  ⟨timely_pure, timely_look, fun _ => timely_await _, timely_bind, timely_attempt⟩

/-! ### Courses that do not panic -/

/-- The course is never interrupted by a panic. -/
def Calm (p : Play σ α) : Prop := ∀ d w message, (p d w).1 ≠ .error (.panicked message)

/-- A course that only gives a result is calm. -/
theorem calm_pure (a : α) : Calm (pure a : Play σ α) := by
  rintro _ _ _ ⟨⟩

/-- A course that only looks at the world is calm. -/
theorem calm_look : Calm (look : Play σ (World σ)) := by
  rintro _ _ _ ⟨⟩

/-- A change is calm. -/
theorem calm_change (f : World σ → World σ) : Calm (change f) := by
  rintro _ _ _ ⟨⟩

/-- Waiting is calm, also where it is cut. -/
theorem calm_await (t : Timed α) : Calm (await t : Play σ α) := by
  intro d w message
  simp only [await]
  split
  · rintro ⟨⟩
  · rintro ⟨⟩
  · split <;> rintro ⟨⟩
  · rintro ⟨⟩

/-- A question is calm, whatever the backend does. -/
theorem calm_ask (request : σ → σ × Timed α) (event : Nat → Timed α → Event) :
    Calm (ask request event) := fun d _ => calm_await _ d _

/-- A sequence is calm if its parts are. -/
theorem calm_bind {p : Play σ α} {f : α → Play σ β} (hp : Calm p) (hf : ∀ a, Calm (f a)) :
    Calm (p >>= f) := by
  intro d w message
  have hfirst := hp d w message
  rcases hpw : p d w with ⟨i | a, u⟩
  · rw [hpw] at hfirst
    rw [bind_of_error hpw]
    exact fun h => hfirst (by cases h; rfl)
  · rw [bind_of_ok hpw]
    exact hf a d u message

/-- An attempt is calm, whatever it is that is attempted. -/
theorem calm_attempt (p : Play σ α) : Calm (attempt p) := by
  intro d w message
  rw [attempt]
  rcases p d w with ⟨(_ | _) | _, u⟩ <;> simp

/-- What is put together from calm parts is calm. -/
theorem calm_compositional : Compositional fun (α : Type) (p : Play σ α) => p.Calm :=
  ⟨calm_pure, calm_look, fun _ => calm_await _, calm_bind, fun _ => calm_attempt _⟩

/-! ### How long a course takes -/

/-- How long a course takes to come to its end, if nothing interrupts it. -/
def duration? (p : Play σ α) (w : World σ) : Option Nat :=
  match p none w with
  | (.ok _, w') => some (w'.now - w.now)
  | (.error _, _) => none

/-- A course takes some time exactly if it gives a result without a deadline. -/
theorem duration?_eq_some_iff {p : Play σ α} {w : World σ} {t : Nat} :
    duration? p w = some t ↔ ∃ a w', p none w = (.ok a, w') ∧ w'.now - w.now = t := by
  rw [duration?]
  rcases p none w with ⟨i | a, u⟩
  · simp
  · constructor
    · intro h
      cases h
      exact ⟨a, u, rfl, rfl⟩
    · rintro ⟨_, _, h, rfl⟩
      cases h
      rfl

/-- **A limit that is longer than the course takes** changes nothing. -/
theorem Timely.of_duration_lt {p : Play σ α} (hp : Timely p) {w : World σ} {t ms : Nat}
    (ht : duration? p w = some t) (hlt : t < ms) : p (some (w.now + ms)) w = p none w := by
  obtain ⟨a, w', hpw, rfl⟩ := duration?_eq_some_iff.1 ht
  refine hp.met _ w (Nat.le_add_right _ _) ?_
  rw [EndsBy, hpw]
  refine ⟨by rintro ⟨⟩, ?_⟩
  change w'.now ≤ w.now + ms
  omega

/-- **A limit that is shorter than the course takes** cuts it. -/
theorem Timely.cut_of_duration {p : Play σ α} (hp : Timely p) (hcalm : Calm p) {w : World σ}
    {ms : Nat} (h : ∀ t, duration? p w = some t → ms < t) : CutAt p (w.now + ms) w := by
  refine hp.missed _ w (Nat.le_add_right _ _) ?_
  rintro ⟨hcut, hnow⟩
  rcases hpw : p none w with ⟨(_ | message) | a, w'⟩
  · exact hcut (by rw [hpw])
  · exact hcalm none w message (by rw [hpw])
  · have hlt := h _ (duration?_eq_some_iff.2 ⟨a, w', hpw, rfl⟩)
    rw [hpw] at hnow
    change w'.now ≤ w.now + ms at hnow
    omega

/-- A course comes to its end within a limit if it takes no longer than the limit. -/
theorem endsBy_add_iff {p : Play σ α} (hcalm : Calm p) {w : World σ} {ms : Nat} :
    EndsBy p (w.now + ms) w ↔ ∃ t, duration? p w = some t ∧ t ≤ ms := by
  rw [EndsBy, duration?]
  rcases hpw : p none w with ⟨(_ | message) | a, w'⟩
  · simp
  · exact absurd (by rw [hpw]) (hcalm none w message)
  · simp only [ne_eq, reduceCtorEq, not_false_eq_true, true_and, Option.some.injEq,
      exists_eq_left']
    omega

/-- **A limit cuts exactly the courses that take longer**, or forever. -/
theorem Timely.cut_iff {p : Play σ α} (hp : Timely p) (hcalm : Calm p) (ms : Nat) (w : World σ) :
    (p (some (w.now + ms)) w).1 = .error .cut ↔ ∀ t, duration? p w = some t → ms < t := by
  constructor
  · intro hcut t ht
    refine Nat.not_le.1 fun hle => ?_
    have hend : EndsBy p (w.now + ms) w := (endsBy_add_iff hcalm).2 ⟨t, ht, hle⟩
    rw [hp.met _ w (Nat.le_add_right _ _) hend] at hcut
    exact hend.1 hcut
  · intro h
    obtain ⟨v, hv, -⟩ := hp.cut_of_duration hcalm h
    rw [hv]

end Play

/-! ### The operations of a session -/

namespace Session

variable (b : Backend σ)

/-- Connecting is timely. -/
theorem connect_timely : (connect b).Timely :=
  connect_of_ask Play.timely_compositional (Play.timely_change (fun _ => rfl) fun _ => rfl)
    (Play.timely_ask _ _ fun _ _ => rfl) fun _ =>
      Play.timely_change (fun _ => rfl) fun _ => rfl

/-- Closing is timely. -/
theorem disconnect_timely : (disconnect b).Timely :=
  disconnect_of_ask Play.timely_compositional (Play.timely_ask _ _ fun _ _ => rfl)
    (Play.timely_change (fun _ => rfl) fun _ => rfl)

/-- Calling a tool is timely. -/
theorem call_timely (tool : String) (arguments : Json) : (call b tool arguments).Timely :=
  call_of_ask Play.timely_compositional tool arguments (Play.timely_ask _ _ fun _ _ => rfl)
    (Play.timely_change (fun _ => rfl) fun _ => rfl) fun _ => Play.timely_interrupt _

/-- Connecting is calm. -/
theorem connect_calm : (connect b).Calm :=
  connect_of_ask Play.calm_compositional (Play.calm_change _) (Play.calm_ask _ _) fun _ =>
    Play.calm_change _

/-- Closing is calm. -/
theorem disconnect_calm : (disconnect b).Calm :=
  disconnect_of_ask Play.calm_compositional (Play.calm_ask _ _) (Play.calm_change _)

end Session

end Scenarist
