import Scenarist.Proofs.Repair.Limit

/-!
# How Often a Repair Releases the Backend

Closing the session is the last thing a repair does, so a repair without a limit asks the backend
to close exactly once. A limit can cut the repair anywhere. Before it closes the session nothing
has been released yet, and the session is closed after the limit instead. But a session counts as
closed only when the backend has come back from closing: if the limit falls into that time, the
session is closed a second time, and the backend is asked twice.

So the number of releases depends on one thing only, whether the repair without a limit would be
closing when the limit expires.

## Main results

* `replayed_unreleased`: until it closes the session, a repair has released nothing.
* `within_closes`: **how often a repair that ends has asked the backend to close**.
-/

namespace Scenarist

namespace Event

/-- The event is a close that is under way at the given time. -/
def isClosingAt (m : Nat) : Event → Bool
  | .close at_ (.after delay _) => at_ ≤ m && m < at_ + delay
  | .close at_ .never => at_ ≤ m
  | _ => false

/-- A close that is under way is a close. -/
theorem kind_of_isClosingAt {m : Nat} {e : Event} (h : e.isClosingAt m = true) :
    e.kind = .close := by
  cases e with
  | close at_ reaction => rfl
  | _ => cases h

/-- A close that is under way was asked for before. -/
theorem time_of_isClosingAt {m : Nat} {e : Event} (h : e.isClosingAt m = true) : e.time ≤ m := by
  cases e with
  | close at_ reaction =>
      cases reaction with
      | never => exact decide_eq_true_eq.mp h
      | after delay _ =>
          simp only [isClosingAt, Bool.and_eq_true, decide_eq_true_eq] at h
          exact h.1
  | _ => cases h

end Event

/-- At the given time the backend is closing. -/
def ClosingAt (m : Nat) (log : List Event) : Prop := ∃ e ∈ log, e.isClosingAt m = true

instance (m : Nat) (log : List Event) : Decidable (ClosingAt m log) :=
  inferInstanceAs (Decidable (∃ e ∈ log, e.isClosingAt m = true))

variable {σ : Type}

/-- The backend is in use, and was **not released** yet. -/
structure Unreleased (w : World σ) : Prop where
  notClosed : w.state ≠ .closed
  attempted : w.attempted = true
  log : ∀ e ∈ w.log, e.kind ≠ .close

namespace Unreleased

variable {w : World σ}

/-- A backend that was not released was not closed. -/
theorem closes (h : Unreleased w) : closes w.log = 0 := closes_eq_zero h.log

/-- A backend that was not released is not closing. -/
theorem not_closingAt (h : Unreleased w) (m : Nat) : ¬ ClosingAt m w.log := by
  rintro ⟨e, he, hclosing⟩
  exact h.log e he (Event.kind_of_isClosingAt hclosing)

/-- A backend that was not released is closing after one more request exactly if that is the
close. -/
theorem concat_closingAt_iff (h : Unreleased w) {m : Nat} {e : Event} :
    ClosingAt m (w.log ++ [e]) ↔ e.isClosingAt m = true := by
  constructor
  · rintro ⟨x, hx, hclosing⟩
    rcases List.mem_append.1 hx with hx | hx
    · exact absurd ⟨x, hx, hclosing⟩ (h.not_closingAt m)
    · exact List.mem_singleton.1 hx ▸ hclosing
  · exact fun he => ⟨e, by simp, he⟩

end Unreleased

/-! ### What does not release the backend -/

namespace Session

/-- What is put together from parts that do not release the backend does not. -/
theorem unreleased_compositional :
    Play.Compositional fun (α : Type) (p : Play σ α) => p.Keeps Unreleased :=
  Play.keeps_compositional fun _ _ h => ⟨h.notClosed, h.attempted, h.log⟩

/-- What is asked leaves the backend in use, if it is not asked to close. -/
theorem ask_unreleased {α : Type} (request : σ → σ × Timed α) {event : Nat → Timed α → Event}
    (hkind : ∀ now t, (event now t).kind ≠ .close) :
    (Play.ask request event).Keeps Unreleased := by
  intro d w hw
  obtain ⟨now, hnow⟩ := Play.ask_world request event d w
  rw [hnow]
  refine ⟨hw.notClosed, hw.attempted, fun e he => ?_⟩
  rcases List.mem_append.1 he with he | he
  · exact hw.log e he
  · rw [List.mem_singleton.1 he]
    exact hkind _ _

/-- A change of the state to another one than closed does not release the backend. -/
theorem changeState_unreleased {s : SessionState} (hs : s ≠ .closed) :
    (Play.change fun w : World σ => { w with state := s }).Keeps Unreleased :=
  Play.keeps_change fun _ hw => ⟨hs, hw.attempted, hw.log⟩

variable (b : Backend σ)

/-- Calling a tool does not release the backend. -/
theorem call_unreleased (tool : String) (arguments : Json) :
    (call b tool arguments).Keeps Unreleased :=
  call_of_ask unreleased_compositional tool arguments
    (ask_unreleased _ fun _ _ => by rintro ⟨⟩) (changeState_unreleased (by decide))
    fun _ => Play.keeps_interrupt _

/-- Connecting takes the backend into use. -/
theorem connect_unreleased {w : World σ} (hconnected : w.state ≠ .connected)
    (hclosed : w.state ≠ .closed) (hlog : ∀ e ∈ w.log, e.kind ≠ .close) (d : Option Nat) :
    Unreleased (connect b d w).2 := by
  have hafter : ∀ result, (afterConnect result : Play σ Bool).Keeps Unreleased := by
    intro result
    cases result with
    | ok _ => exact Play.keeps_bind (changeState_unreleased (by decide)) fun _ => Play.keeps_pure _
    | error _ =>
        exact Play.keeps_bind (changeState_unreleased (by decide)) fun _ => Play.keeps_pure _
  rw [connect_of_open b d hconnected hclosed]
  refine Play.keeps_bind (ask_unreleased _ fun _ _ => by rintro ⟨⟩) hafter d _ ?_
  exact ⟨by rintro ⟨⟩, rfl, hlog⟩

variable {b}

/-- Closing asks the backend to close once more. -/
theorem closes_disconnect {w : World σ} (hclosed : w.state ≠ .closed)
    (hattempted : w.attempted = true) (d : Option Nat) :
    closes (disconnect b d w).2.log = closes w.log + 1 := by
  rw [disconnect_log_of_attempted b d hclosed hattempted, closes_append]
  rfl

/-- Closing is cut by a deadline that falls into the time that it takes, and by no other. -/
theorem ask_close_result {w : World σ} {m : Nat} (hdue : w.now ≤ m) :
    (Play.ask b.close .close (some m) w).1 =
      if (Event.close w.now (b.close w.backend).2).isClosingAt m = true then .error .cut
      else .ok () := by
  rcases hask : b.close w.backend with ⟨s, _ | ⟨delay, ⟨⟩⟩⟩
  · simp [Play.ask, hask, Play.await, Event.isClosingAt, hdue]
  · by_cases hdelay : m < w.now + delay
    · simp [Play.ask, hask, Play.await, Event.isClosingAt, hdue, hdelay]
    · simp [Play.ask, hask, Play.await, Event.isClosingAt, hdelay]

section

variable {w : World σ} {m : Nat} (hclosed : w.state ≠ .closed) (hattempted : w.attempted = true)

include hclosed hattempted

/-- A deadline that falls into the closing of a session leaves it open. -/
theorem disconnect_cut
    (hclosing : (Event.close w.now (b.close w.backend).2).isClosingAt m = true) :
    ∃ w', disconnect b (some m) w = (.error .cut, w') ∧ w'.state = w.state ∧
      w'.attempted = true := by
  have hcut := ask_close_result (b := b) (Event.time_of_isClosingAt hclosing)
  rw [if_pos hclosing] at hcut
  obtain ⟨now, hworld⟩ := Play.ask_world b.close .close (some m) w
  rw [disconnect_of_attempted b _ hclosed hattempted, Play.bind_of_error (Prod.ext hcut hworld)]
  exact ⟨_, rfl, rfl, hattempted⟩

/-- A deadline that does not fall into the closing of a session does nothing to it. -/
theorem disconnect_ends (hdue : w.now ≤ m)
    (hclosing : (Event.close w.now (b.close w.backend).2).isClosingAt m = false) :
    ∃ w', disconnect b (some m) w = (.ok (), w') := by
  have hends := ask_close_result (b := b) hdue
  rw [if_neg (Bool.eq_false_iff.1 hclosing)] at hends
  obtain ⟨now, hworld⟩ := Play.ask_world b.close .close (some m) w
  rw [disconnect_of_attempted b _ hclosed hattempted, Play.bind_of_ok (Prod.ext hends hworld)]
  exact ⟨_, rfl⟩

end

end Session

namespace Repair

variable {b : Backend σ} {tools : Toolbox} {url : String} {pause : Nat} {all : List Scenario}

/-- **Until it closes the session, a repair has released nothing**, wherever it stops. -/
theorem replayed_unreleased (b : Backend σ) (tools : Toolbox) (pause : Nat) (url : String)
    (all : List Scenario) (d : Option Nat) (s : σ) :
    Unreleased (replayed b tools pause url all d (.start s)).2 := by
  have hconnect := Session.connect_unreleased b (w := .start s) (by rintro ⟨⟩) (by rintro ⟨⟩)
    (by rintro _ ⟨⟩) d
  rw [replayed]
  rcases hc : Session.connect b d (.start s) with ⟨i | connected, u⟩
  · rw [hc] at hconnect
    rw [Play.bind_of_error hc]
    exact hconnect
  · rw [hc] at hconnect
    rw [Play.bind_of_ok hc]
    have hreplay : (scenarios b tools url pause all).Keeps Unreleased :=
      scenarios_of_call Session.unreleased_compositional (Session.call_unreleased b) tools url
        pause all
    cases connected with
    | true => exact Play.keeps_bind hreplay (fun _ => Play.keeps_pure _) d u hconnect
    | false => exact hconnect

/-- A repair without a limit that has replayed its scenarios closes the session. -/
theorem unlimited_of_replayed_ok {d : Option Nat} {w u : World σ} {report : RepairReport}
    (h : replayed b tools pause url all d w = (.ok report, u)) :
    unlimited b tools pause url all d w =
      (do Session.disconnect b; return report : Play σ RepairReport) d u := by
  rw [unlimited_eq, Play.bind_of_ok h]

/-- Closing is the last thing that it asks for. -/
theorem unlimited_log_of_replayed_ok {d : Option Nat} {w u : World σ} {report : RepairReport}
    (h : replayed b tools pause url all d w = (.ok report, u)) (hu : Unreleased u) :
    (unlimited b tools pause url all d w).2.log =
      u.log ++ [.close u.now (b.close u.backend).2] := by
  rw [unlimited_of_replayed_ok h, Play.bind_log fun _ _ _ => rfl,
    Session.disconnect_log_of_attempted b d hu.notClosed hu.attempted]

/-- **A repair that the limit cuts before it closes the session** is not closing then, if it
goes on. -/
theorem not_closingAt_of_replayed_cut {s : σ} {m : Nat}
    (h : ¬ Play.EndsBy (replayed b tools pause url all) m (.start s)) :
    ¬ ClosingAt m (unlimited b tools pause url all none (.start s)).2.log := by
  have hu := replayed_unreleased b tools pause url all none s
  rcases hreplayed : replayed b tools pause url all none (.start s) with ⟨i | report, u⟩
  · rw [hreplayed] at hu
    rw [unlimited_eq, Play.bind_of_error hreplayed]
    exact hu.not_closingAt m
  · rw [hreplayed] at hu
    rw [unlimited_log_of_replayed_ok hreplayed hu, hu.concat_closingAt_iff]
    intro hclosing
    rw [Play.EndsBy, hreplayed] at h
    exact h ⟨by rintro ⟨⟩, Event.time_of_isClosingAt hclosing⟩

/-- A repair that replays its scenarios by a deadline does so without a panic. -/
theorem replayed_of_endsBy {w : World σ} {m : Nat} (hw : w.now ≤ m)
    (h : Play.EndsBy (replayed b tools pause url all) m w) :
    ∃ report u, replayed b tools pause url all none w = (.ok report, u) ∧
      replayed b tools pause url all (some m) w = (.ok report, u) ∧ u.now ≤ m := by
  have hsame := (replayed_timely b tools pause url all).met m w hw h
  have hcalm := replayed_calm b tools pause url all none w
  rcases hreplayed : replayed b tools pause url all none w with ⟨(_ | message) | report, u⟩
  · exact absurd (by rw [hreplayed]) h.1
  · exact absurd (by rw [hreplayed]) (hcalm message)
  · rw [Play.EndsBy, hreplayed] at h
    rw [hreplayed] at hsame
    exact ⟨report, u, rfl, hsame, h.2⟩

/-- After a replay that has come to its end the backend is closed once. -/
theorem closes_of_replayed_ok {d : Option Nat} {w u : World σ} {report : RepairReport}
    (h : replayed b tools pause url all d w = (.ok report, u)) (hu : Unreleased u) :
    closes (unlimited b tools pause url all d w).2.log = 1 := by
  rw [unlimited_log_of_replayed_ok h hu, closes_append, hu.closes]
  rfl

/-- A repair of a new session that the limit cuts while the session is open asks to close once
more. -/
theorem closes_of_cut {s : σ} {v w' : World σ} {ms : Nat} {report : RepairReport}
    (hcut : unlimited b tools pause url all (some ms) (.start s) = (.error .cut, v))
    (hclosed : v.state ≠ .closed) (hattempted : v.attempted = true)
    (h : within b tools pause url all (some ms) none (.start s) = (.ok report, w')) :
    closes w'.log = closes v.log + 1 := by
  have hms : (World.start s).now + ms = ms := Nat.zero_add ms
  rw [← hms] at hcut
  rw [within_of_cut hcut] at h
  obtain ⟨_, u, hdisconnect, h⟩ := Play.bind_eq_ok_iff.1 h
  obtain ⟨-, rfl⟩ := Play.pure_eq_ok_iff.1 h
  rw [← Session.closes_disconnect (b := b) hclosed hattempted none, hdisconnect]

section

variable {s : σ} {ms : Nat} {report : RepairReport} {w' : World σ}
variable (h : within b tools pause url all (some ms) none (.start s) = (.ok report, w'))

include h

/-- The limit expires before the session is being closed. -/
theorem closes_of_cut_early
    (hend : ¬ Play.EndsBy (replayed b tools pause url all) ms (.start s)) :
    closes w'.log = 1 := by
  obtain ⟨v, hcut, -, -⟩ :=
    (replayed_timely b tools pause url all).missed ms _ (Nat.zero_le ms) hend
  have hv := replayed_unreleased b tools pause url all (some ms) s
  rw [hcut] at hv
  have hunlimited : unlimited b tools pause url all (some ms) (.start s) = (.error .cut, v) := by
    rw [unlimited_eq, Play.bind_of_error hcut]
  rw [closes_of_cut hunlimited hv.notClosed hv.attempted h, hv.closes]

variable {r : RepairReport} {u : World σ}
variable (hreplayed : replayed b tools pause url all (some ms) (.start s) = (.ok r, u))
variable (hu : Unreleased u)

include hreplayed hu

/-- The limit expires while the session is being closed. -/
theorem closes_of_cut_late
    (hclosing : (Event.close u.now (b.close u.backend).2).isClosingAt ms = true) :
    closes w'.log = 2 := by
  have honce := closes_of_replayed_ok hreplayed hu
  obtain ⟨v, hv, hstate, hattempted⟩ :=
    Session.disconnect_cut hu.notClosed hu.attempted hclosing
  have hunlimited : unlimited b tools pause url all (some ms) (.start s) = (.error .cut, v) := by
    rw [unlimited_of_replayed_ok hreplayed, Play.bind_of_error hv]
  rw [hunlimited] at honce
  rw [closes_of_cut hunlimited (hstate ▸ hu.notClosed) hattempted h, honce]

/-- The limit does not expire. -/
theorem closes_of_ended (hnow : u.now ≤ ms)
    (hclosing : (Event.close u.now (b.close u.backend).2).isClosingAt ms = false) :
    closes w'.log = 1 := by
  have honce := closes_of_replayed_ok hreplayed hu
  obtain ⟨v, hv⟩ := Session.disconnect_ends hu.notClosed hu.attempted hnow hclosing
  have hunlimited : unlimited b tools pause url all (some ms) (.start s) = (.ok r, v) := by
    rw [unlimited_of_replayed_ok hreplayed, Play.bind_of_ok hv]
    rfl
  have hms : (World.start s).now + ms = ms := Nat.zero_add ms
  rw [hunlimited] at honce
  rw [← hms] at hunlimited
  rw [within_of_ended hunlimited] at h
  cases h
  exact honce

end

/-- **How often a repair releases the backend.** A repair of a session that has just begun, when
it ends, has asked the backend to close once; but twice, if the limit expires while the repair
without a limit is closing the session. -/
theorem within_closes {limit : Option Nat} {s : σ} {report : RepairReport} {w' : World σ}
    (h : within b tools pause url all limit none (.start s) = (.ok report, w')) :
    closes w'.log =
      if ∃ ms ∈ limit, ClosingAt ms (unlimited b tools pause url all none (.start s)).2.log
      then 2 else 1 := by
  have hu := replayed_unreleased b tools pause url all none s
  cases limit with
  | none =>
      change unlimited b tools pause url all none (.start s) = _ at h
      obtain ⟨r, u, hreplayed, -⟩ := Play.bind_eq_ok_iff.1 (unlimited_eq (b := b) all ▸ h)
      rw [hreplayed] at hu
      have honce := closes_of_replayed_ok hreplayed hu
      rw [h] at honce
      rw [if_neg (by rintro ⟨_, ⟨⟩, -⟩)]
      exact honce
  | some ms =>
      simp only [Option.mem_some_iff, exists_eq_left']
      by_cases hend : Play.EndsBy (replayed b tools pause url all) ms (.start s)
      · obtain ⟨r, u, hfull, hreplayed, hnow⟩ := replayed_of_endsBy (Nat.zero_le ms) hend
        rw [hfull] at hu
        simp only [unlimited_log_of_replayed_ok hfull hu, hu.concat_closingAt_iff]
        split
        · next hclosing => exact closes_of_cut_late h hreplayed hu hclosing
        · next hclosing =>
          exact closes_of_ended h hreplayed hu hnow (Bool.eq_false_iff.2 hclosing)
      · rw [if_neg (not_closingAt_of_replayed_cut hend)]
        exact closes_of_cut_early h hend

/-- A backend that answers at once, but takes 200 milliseconds to close. -/
def slowToClose : Backend Unit where
  connect _ := ((), .after 0 (.ok ()))
  call _ _ _ := ((), .after 0 (.answered (.ok ⟨false, ""⟩)))
  close _ := ((), .after 200 ())

/-- The repair of a scenario with this backend, within a limit. -/
def slowRun (limit : Nat) : Except Interrupt RepairReport × World Unit :=
  within slowToClose .bySelector 0 "https://x.test" [search] (some limit) none (.start ())

/-- A limit of 100 milliseconds expires while the session is being closed, one of 250 milliseconds
does not. -/
theorem within_closes_slowRun :
    (∃ report w, slowRun 100 = (.ok report, w) ∧ closes w.log = 2) ∧
    ∃ report w, slowRun 250 = (.ok report, w) ∧ closes w.log = 1 := by
  have hearly : (slowRun 100).1.isOk = true := by decide +kernel
  have hlate : (slowRun 250).1.isOk = true := by decide +kernel
  have hclosing : ClosingAt 100 (unlimited slowToClose .bySelector 0 "https://x.test" [search] none
      (.start ())).2.log := by decide +kernel
  have hclosed : ¬ ClosingAt 250 (unlimited slowToClose .bySelector 0 "https://x.test" [search] none
      (.start ())).2.log := by decide +kernel
  constructor
  · rcases hrun : slowRun 100 with ⟨i | report, w⟩
    · rw [hrun] at hearly
      cases hearly
    · refine ⟨report, w, rfl, ?_⟩
      rw [within_closes hrun, if_pos ⟨100, rfl, hclosing⟩]
  · rcases hrun : slowRun 250 with ⟨i | report, w⟩
    · rw [hrun] at hlate
      cases hlate
    · refine ⟨report, w, rfl, ?_⟩
      rw [within_closes hrun, if_neg]
      rintro ⟨_, ⟨⟩, h⟩
      exact hclosed h

end Repair

end Scenarist
