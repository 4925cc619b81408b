import Mathlib.Data.Finset.Dedup
import Mathlib.Data.List.Forall2
import Mathlib.Order.Interval.Finset.Nat
import Scenarist.Reply.Scenarios

/-!
# Distinct Identifiers

How the scenarios of a reply are told apart. Each of them in turn is assigned an identifier that
none of those before it has got (`Assigned`): its own one if it is not taken, and otherwise its own
one with the least number from 2 on that makes it a free one. A number may make an identifier that
a scenario had from the start, before or after the one that gets the number.

The search for a number has no bound of its own (`SearchEnds`). It ends because different numbers
make different identifiers, and no number makes the one that is taken in the first place, so that
there are more numbers to try than identifiers in their way.

## Main results

* `exists_searchEnds`: **the search ends**, with a number not above the count of the taken
  identifiers and one.
* `assigned_freshId`: the identifier that a scenario is assigned.
* `distinctIds_assigned`: **identifiers are made distinct**, one scenario after another.
-/

namespace Scenarist.Reply

variable {taken : Finset String} {id own : String} {n k m : Nat}

/-! ### Numbers -/

/-- Different numbers make different identifiers. -/
theorem numbered_injective (id : String) : Function.Injective (numbered id) := by
  intro a b h
  have hlist := congrArg String.toList h
  simp only [numbered, String.toList_append, Decimal.natText, String.toList_ofList] at hlist
  have hdigits : Decimal.digitChars a = Decimal.digitChars b := List.append_cancel_left hlist
  calc
    a = Nat.ofDigitChars 10 (Decimal.digitChars a) 0 := Nat.ofDigitChars_ten_toDigits.symm
    _ = Nat.ofDigitChars 10 (Decimal.digitChars b) 0 := by rw [hdigits]
    _ = b := Nat.ofDigitChars_ten_toDigits

/-- A number makes another identifier. -/
theorem numbered_ne (id : String) (n : Nat) : numbered id n ≠ id := by
  intro h
  have hlist := congrArg String.toList h
  simp only [numbered, String.toList_append, List.append_assoc, List.append_right_eq_self] at hlist
  simp at hlist

/-- The search for a number that makes a free identifier, going on from a number, **ends** at
another one. -/
inductive SearchEnds (taken : Finset String) (id : String) : Nat → Nat → Prop where
  | free {n : Nat} (h : numbered id n ∉ taken) : SearchEnds taken id n n
  | next {n k : Nat} (h : numbered id n ∈ taken) (rest : SearchEnds taken id (n + 1) k) :
      SearchEnds taken id n k

/-- The search ends at the first number that makes a free identifier. -/
theorem SearchEnds.isLeast (h : SearchEnds taken id n k) :
    IsLeast {m | n ≤ m ∧ numbered id m ∉ taken} k := by
  induction h with
  | free h => exact ⟨⟨le_rfl, h⟩, fun m hm => hm.1⟩
  | @next n k h _ ih =>
      obtain ⟨⟨hk, hfree⟩, hleast⟩ := ih
      refine ⟨⟨by omega, hfree⟩, fun m hm => ?_⟩
      obtain ⟨hle, hm⟩ := hm
      have hne : n ≠ m := by
        rintro rfl
        exact hm h
      exact hleast ⟨by omega, hm⟩

/-- The search does not pass a number that makes a free identifier. -/
theorem searchEnds_of_free (hn : n ≤ m) (hm : numbered id m ∉ taken) :
    ∃ k, SearchEnds taken id n k ∧ k ≤ m := by
  induction hn using Nat.decreasingInduction with
  | self => exact ⟨m, .free hm, le_rfl⟩
  | of_succ n hlt ih =>
      by_cases h : numbered id n ∈ taken
      · obtain ⟨k, hends, hk⟩ := ih
        exact ⟨k, .next h hends, hk⟩
      · exact ⟨n, .free h, hlt.le⟩

/-- Not all numbers make an identifier that is taken: they are too many. -/
theorem exists_free (h : id ∈ taken) :
    ∃ m, 2 ≤ m ∧ m ≤ taken.card + 1 ∧ numbered id m ∉ taken := by
  by_contra hnone
  have hall : ∀ m, 2 ≤ m → m ≤ taken.card + 1 → numbered id m ∈ taken := by
    intro m htwo hm
    by_contra hfree
    exact hnone ⟨m, htwo, hm, hfree⟩
  -- The numbers tried make identifiers that are taken, and none of them is `id` itself.
  have hsubset : (Finset.Icc 2 (taken.card + 1)).image (numbered id) ⊆ taken.erase id := by
    intro x hx
    obtain ⟨m, hm, rfl⟩ := Finset.mem_image.1 hx
    obtain ⟨htwo, hm⟩ := Finset.mem_Icc.1 hm
    exact Finset.mem_erase.2 ⟨numbered_ne id m, hall m htwo hm⟩
  have hcard := Finset.card_le_card hsubset
  rw [Finset.card_image_of_injective _ (numbered_injective id), Nat.card_Icc,
    Finset.card_erase_of_mem h] at hcard
  have hpos := Finset.card_pos.2 ⟨id, h⟩
  omega

/-- **The search ends**, and with a number that is not large. -/
theorem exists_searchEnds (h : id ∈ taken) :
    ∃ k, SearchEnds taken id 2 k ∧ k ≤ taken.card + 1 := by
  obtain ⟨m, htwo, hm, hfree⟩ := exists_free h
  obtain ⟨k, hends, hk⟩ := searchEnds_of_free htwo hfree
  exact ⟨k, hends, hk.trans hm⟩

/-- Tries that are enough to end the search find its end. -/
theorem SearchEnds.firstFree_eq {taken : List String} (h : SearchEnds taken.toFinset id n k)
    {tries : Nat} (htries : k ≤ n + tries) : firstFree taken id n tries = numbered id k := by
  induction h generalizing tries with
  | free h =>
      cases tries with
      | zero => rfl
      | succ tries => exact if_neg (by simpa using h)
  | next h rest ih =>
      obtain ⟨⟨hk, -⟩, -⟩ := rest.isLeast
      cases tries with
      | zero => omega
      | succ tries =>
          rw [firstFree, if_pos (by simpa using h)]
          exact ih (by omega)

/-! ### What a scenario is assigned -/

/-- A scenario with an identifier of its own **is assigned** an identifier, with those of others
taken. -/
inductive Assigned (taken : Finset String) (own : String) : String → Prop where
  | kept (h : own ∉ taken) : Assigned taken own own
  | suffixed {n : Nat} (h : own ∈ taken) (hends : SearchEnds taken own 2 n)
      (hleast : IsLeast {m | 2 ≤ m ∧ numbered own m ∉ taken} n) (hn : n ≤ taken.card + 1) :
      Assigned taken own (numbered own n)

/-- What is assigned was not taken. -/
theorem Assigned.not_mem (h : Assigned taken own id) : id ∉ taken := by
  cases h with
  | kept h => exact h
  | suffixed _ _ hleast _ => exact hleast.1.2

/-- **The identifier that a scenario is assigned.** -/
theorem assigned_freshId (taken : List String) (own : String) :
    Assigned taken.toFinset own (freshId taken own) := by
  by_cases h : own ∈ taken
  · have hmem : own ∈ taken.toFinset := List.mem_toFinset.2 h
    obtain ⟨n, hends, hn⟩ := exists_searchEnds hmem
    -- Each of the taken identifiers allows for one try, and those that differ are enough.
    have htries : n ≤ 2 + taken.length := by
      have hcard := List.toFinset_card_le taken
      omega
    rw [freshId, if_pos (by simpa using h), hends.firstFree_eq htries]
    exact .suffixed hmem hends hends.isLeast hn
  · rw [freshId, if_neg (by simpa using h)]
    exact .kept (by simpa using h)

/-! ### All scenarios -/

/-- The scenario is the same but for its identifier. -/
def SameButId (s t : Scenario) : Prop := t = { s with id := t.id }

/-- The identifiers of scenarios. -/
def idsOf (scenarios : List Scenario) : List String := scenarios.map (·.id)

theorem distinctIdsFrom_sameButId (taken : List String) (scenarios : List Scenario) :
    List.Forall₂ SameButId scenarios (distinctIdsFrom taken scenarios) := by
  induction scenarios generalizing taken with
  | nil => exact .nil
  | cons s scenarios ih => exact .cons rfl (ih _)

/-- What scenarios are assigned is not taken, and differs from one to the other. -/
theorem distinctIdsFrom_nodup (taken : List String) (scenarios : List Scenario) :
    (idsOf (distinctIdsFrom taken scenarios)).Nodup ∧
      ∀ id ∈ idsOf (distinctIdsFrom taken scenarios), id ∉ taken := by
  induction scenarios generalizing taken with
  | nil => exact ⟨List.nodup_nil, fun _ h => (List.not_mem_nil h).elim⟩
  | cons s scenarios ih =>
      have hfresh : freshId taken s.id ∉ taken := by
        simpa using (assigned_freshId taken s.id).not_mem
      obtain ⟨hnodup, hnot⟩ := ih (freshId taken s.id :: taken)
      rw [distinctIdsFrom, idsOf, List.map_cons]
      refine ⟨List.nodup_cons.2 ⟨fun hmem => hnot _ hmem List.mem_cons_self, hnodup⟩, ?_⟩
      intro id hid
      rcases List.mem_cons.1 hid with rfl | hid
      · exact hfresh
      · exact fun hmem => hnot id hid (List.mem_cons_of_mem _ hmem)

/-- What the first scenarios are assigned does not depend on the others, which are assigned theirs
with those of the first ones taken. -/
theorem distinctIdsFrom_append (taken : List String) (xs ys : List Scenario) :
    distinctIdsFrom taken (xs ++ ys) = distinctIdsFrom taken xs ++
      distinctIdsFrom ((idsOf (distinctIdsFrom taken xs)).reverse ++ taken) ys := by
  induction xs generalizing taken with
  | nil => rfl
  | cons s xs ih =>
      rw [List.cons_append, distinctIdsFrom, distinctIdsFrom, ih, idsOf, idsOf, List.map_cons,
        List.reverse_cons, List.append_assoc]
      rfl

/-- The scenario after others is assigned its identifier with theirs taken. -/
theorem distinctIds_append_cons (before : List Scenario) (s : Scenario) (after : List Scenario) :
    ∃ id rest, distinctIds (before ++ s :: after) =
        distinctIds before ++ { s with id := id } :: rest ∧
      Assigned (idsOf (distinctIds before)).toFinset s.id id := by
  have hassigned := assigned_freshId (idsOf (distinctIds before)).reverse s.id
  rw [List.toFinset_reverse] at hassigned
  have happend := distinctIdsFrom_append [] before (s :: after)
  rw [List.append_nil] at happend
  exact ⟨_, _, happend, hassigned⟩

/-- **Identifiers are made distinct.** The scenarios stay what and where they are, but for their
identifiers, and these are pairwise different. Each scenario is assigned its identifier with those
of the scenarios before it taken, and with a number that is at most one above the count of those
scenarios, so that it fits into 31 bits if they all are fewer than that. What scenarios are assigned
does not depend on those after them. -/
theorem distinctIds_assigned (scenarios : List Scenario) :
    List.Forall₂ SameButId scenarios (distinctIds scenarios) ∧
      (idsOf (distinctIds scenarios)).Nodup ∧
      (∀ before s after, scenarios = before ++ s :: after → ∃ id rest,
        distinctIds scenarios = distinctIds before ++ { s with id := id } :: rest ∧
        Assigned (idsOf (distinctIds before)).toFinset s.id id) ∧
      ∀ more, ∃ rest, distinctIds (scenarios ++ more) = distinctIds scenarios ++ rest := by
  refine ⟨distinctIdsFrom_sameButId [] scenarios, (distinctIdsFrom_nodup [] scenarios).1, ?_, ?_⟩
  · rintro before s after rfl
    exact distinctIds_append_cons before s after
  · intro more
    exact ⟨_, distinctIdsFrom_append [] scenarios more⟩

/-- A number that makes the identifier of a later scenario takes it away from that scenario. -/
example : idsOf (distinctIds [.blank "x" "One", .blank "x" "Two", .blank "x-2" "Three"]) =
    ["x", "x-2", "x-2-2"] := by
  decide +kernel

end Scenarist.Reply
