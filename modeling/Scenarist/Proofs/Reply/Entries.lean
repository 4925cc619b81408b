import Scenarist.Proofs.Json.Printer
import Scenarist.Proofs.Spec.Target
import Scenarist.Reply.Scenarios
import Mathlib.Data.List.Forall2
import Mathlib.Data.List.Basic

/-!
# The Scenarios of Replies

What a reply can give, whatever it holds: nothing, or one scenario for each entry of its list. The
entries are read field by field, and each field has one of three ends: it is given, it is missing
and a default stands in for it, or it is of a wrong form and nothing is read of the whole reply.
Only `steps` has the third end. A step has an end of its own, to be left out, and that is for the
steps that name an action which is none of the recognized ones (`NamesNoAction`).

The texts that are given are neat (`Neat`), the defaults are, and an identifier that gets a number
to tell it from others stays neat, so that all identifiers, names and targets are.

## Main results

* `exists_stepOf`, `exists_scenario?`: what an entry says is read, and
  `step?_eq_none`, `scenario?_eq_none`: nothing else is.
* `parseScenarios_entries`: **what a reply gives**.
-/

namespace Scenarist

/-! ### Neat texts -/

/-- The text is **neat**: it is not blank, and no blanks are at its ends. -/
structure Neat (s : String) : Prop where
  notBlank : isBlankText s = false
  trimmed : trimmed s = s

/-- Trimming leaves a text alone exactly if no blank is at either end. -/
theorem trimmed_eq_self_iff {s : String} : trimmed s = s ↔
    (∀ c, s.toList.head? = some c → Text.isBlank c = false) ∧
      ∀ c, s.toList.getLast? = some c → Text.isBlank c = false := by
  rw [trimmed, ← String.toList_inj, String.toList_ofList, Spec.trim_eq_iff]
  constructor
  · intro h
    exact ⟨h.first, h.last⟩
  · rintro ⟨hfirst, hlast⟩
    exact ⟨⟨[], [], by simp, rfl, rfl⟩, hfirst, hlast⟩

/-- A text that trimming leaves alone is neat if there is anything of it. -/
theorem neat_of_trimmed {s : String} (hne : s ≠ "") (h : trimmed s = s) : Neat s := by
  refine ⟨?_, h⟩
  obtain ⟨hfirst, -⟩ := trimmed_eq_self_iff.1 h
  rw [isBlankText, Text.isAllBlank, List.all_eq_false]
  cases hs : s.toList with
  | nil => exact absurd (String.toList_eq_nil_iff.1 hs) hne
  | cons c cs =>
      have hc := hfirst c (by rw [hs]; rfl)
      exact ⟨c, List.mem_cons_self, by simp [hc]⟩

/-- A neat text is not empty. -/
theorem Neat.ne_empty {s : String} (h : Neat s) : s ≠ "" := by
  rintro rfl
  cases h.notBlank

/-- A text is neat if it is not empty and has no blanks around it. -/
theorem neat_iff {s : String} : Neat s ↔ s ≠ "" ∧ Scenarist.trimmed s = s :=
  ⟨fun h => ⟨h.ne_empty, h.trimmed⟩, fun h => neat_of_trimmed h.1 h.2⟩

instance : DecidablePred Neat := fun _ => decidable_of_iff _ neat_iff.symm

/-- Trimming is done at once. -/
theorem trimmed_trimmed (s : String) : trimmed (trimmed s) = trimmed s := by
  have h := Spec.trim_eq_iff.1 (rfl : Text.trim s.toList = Text.trim s.toList)
  rw [trimmed_eq_self_iff, trimmed, String.toList_ofList]
  exact ⟨h.first, h.last⟩

/-- What is left of a text without the blanks around it is neat, if anything is left. -/
theorem neat_trimmed {s : String} (h : trimmed s ≠ "") : Neat (trimmed s) :=
  neat_of_trimmed h (trimmed_trimmed s)

/-- No digit is blank. -/
theorem isBlank_of_isDigit {c : Char} (h : c.isDigit = true) : Text.isBlank c = false := by
  simp only [Char.isDigit, Bool.and_eq_true, decide_eq_true_eq] at h
  have hlow : 48 ≤ c.toNat := h.1
  have hhigh : c.toNat ≤ 57 := h.2
  simp [Text.isBlank]
  omega

/-- A number at the end of a text keeps it neat. -/
theorem neat_append_natText {s : String} (hne : s ≠ "")
    (hfirst : ∀ c, s.toList.head? = some c → Text.isBlank c = false) (n : Nat) :
    Neat (s ++ Decimal.natText n) := by
  have hdigits : Decimal.digitChars n ≠ [] := Nat.toDigits_ne_nil
  have htext : (s ++ Decimal.natText n).toList = s.toList ++ Decimal.digitChars n := by
    rw [String.toList_append, Decimal.natText, String.toList_ofList]
  refine neat_of_trimmed ?_ (trimmed_eq_self_iff.2 ⟨?_, ?_⟩)
  · intro h
    rw [h] at htext
    simp [hdigits] at htext
  · intro c hc
    have hs : s.toList ≠ [] := fun hnil => hne (String.toList_eq_nil_iff.1 hnil)
    rw [htext, List.head?_append_of_ne_nil _ hs] at hc
    exact hfirst c hc
  · intro c hc
    rw [htext, List.getLast?_append_of_ne_nil _ hdigits] at hc
    exact isBlank_of_isDigit (Decimal.isDigit_of_mem_digitChars (List.mem_of_getLast? hc))

end Scenarist

namespace Scenarist.Reply

open Json

variable {members : List (String × Json)} {key default t : String} {entry : Json}

/-! ### Fields -/

/-- The members **give** the text under the key: what is left of a scalar without the blanks at its
ends, and not empty. -/
def Given (members : List (String × Json)) (key t : String) : Prop :=
  ∃ v s, members.lookup key = some v ∧ scalar? v = some s ∧ t = trimmed s ∧ t ≠ ""

/-- What is taken of a key is the text given under it. -/
theorem nonBlank?_eq_some_iff : nonBlank? members key = some t ↔ Given members key t := by
  simp only [nonBlank?, Option.bind_eq_bind, Option.bind_eq_some_iff]
  constructor
  · rintro ⟨v, hv, s, hs, h⟩
    split at h
    · cases h
    · next hne =>
        cases h
        exact ⟨v, s, hv, hs, rfl, by simpa using hne⟩
  · rintro ⟨v, s, hv, hs, rfl, hne⟩
    exact ⟨v, hv, s, hs, by simp [hne]⟩

/-- Nothing is taken of a key under which no text is given. -/
theorem nonBlank?_eq_none_iff : nonBlank? members key = none ↔ ∀ t, ¬ Given members key t := by
  rw [Option.eq_none_iff_forall_ne_some]
  exact forall_congr' fun t => not_congr nonBlank?_eq_some_iff

/-- A text that is given is neat. -/
theorem Given.neat (h : Given members key t) : Neat t := by
  obtain ⟨_, s, -, -, rfl, hne⟩ := h
  exact neat_trimmed hne

/-- The text under the key, or the default if the members give none. -/
def GivenOr (members : List (String × Json)) (key default t : String) : Prop :=
  Given members key t ∨ (∀ u, ¬ Given members key u) ∧ t = default

/-- What is taken of a key is the text given under it, or the default. -/
theorem givenOr_getD (members : List (String × Json)) (key default : String) :
    GivenOr members key default ((nonBlank? members key).getD default) := by
  cases h : nonBlank? members key with
  | some t => exact .inl (nonBlank?_eq_some_iff.1 h)
  | none => exact .inr ⟨nonBlank?_eq_none_iff.1 h, rfl⟩

/-- What is taken of a key is neat if the default is. -/
theorem GivenOr.neat (h : GivenOr members key default t) (hdefault : Neat default) : Neat t := by
  rcases h with h | ⟨-, rfl⟩
  · exact h.neat
  · exact hdefault

/-- What is taken of a key is not empty if the default is not. -/
theorem GivenOr.ne_empty (h : GivenOr members key default t) (hdefault : default ≠ "") :
    t ≠ "" := by
  rcases h with ⟨_, _, _, _, _, hne⟩ | ⟨-, rfl⟩
  · exact hne
  · exact hdefault

/-! ### Steps -/

/-- The entry **names no action**: it gives a name under `action` that is none of the recognized
ones, whatever the case of its letters. -/
def NamesNoAction (entry : Json) : Prop :=
  ∃ members name, entry = .object members ∧ Given members "action" name ∧
    ∀ a ∈ Action.recognized, a.name ≠ lowered name

/-- A name is that of a recognized action if it is in the list of their names. -/
theorem isRecognized_parse_iff {s : String} : (Action.parse s).isRecognized = true ↔
    ∃ a ∈ Action.recognized, a.name = lowered (trimmed s) := by
  have hall : ∀ a ∈ Action.recognized, a.isRecognized = true := by decide
  rw [Action.parse, Action.ofName?]
  cases hfind : Action.recognized.find? fun a => a.name == lowered (trimmed s) with
  | some a =>
      have hmem := List.mem_of_find?_eq_some hfind
      have hname := List.find?_some hfind
      exact iff_of_true (hall a hmem) ⟨a, hmem, by simpa using hname⟩
  | none =>
      refine iff_of_false Bool.false_ne_true ?_
      rintro ⟨a, hmem, hname⟩
      exact List.find?_eq_none.1 hfind a hmem (by simpa using hname)

/-- An action that is given is recognized if its name is among the names of actions, in whatever
case. -/
theorem Given.isRecognized_iff (h : Given members "action" t) :
    (Action.parse t).isRecognized = true ↔ ∃ a ∈ Action.recognized, a.name = lowered t := by
  rw [isRecognized_parse_iff, h.neat.trimmed]

/-- The action of an entry: a click if it gives no name. -/
def actionOf (members : List (String × Json)) : Action :=
  ((nonBlank? members "action").map Action.parse).getD .click

/-- An action that is not given reads as one with the name of a click. -/
theorem exists_actionOf (members : List (String × Json)) :
    ∃ name, GivenOr members "action" "click" name ∧ actionOf members = .parse name := by
  refine ⟨_, givenOr_getD members "action" "click", ?_⟩
  rw [actionOf]
  cases nonBlank? members "action" with
  | some name => rw [Option.map_some, Option.getD_some, Option.getD_some]
  | none => decide +kernel

/-- The action of an entry is recognized unless the entry names none. -/
theorem isRecognized_actionOf_iff :
    (actionOf members).isRecognized = true ↔ ¬ NamesNoAction (.object members) := by
  rw [actionOf]
  cases h : nonBlank? members "action" with
  | none =>
      refine iff_of_true rfl ?_
      rintro ⟨_, name, ⟨⟩, hname, -⟩
      exact nonBlank?_eq_none_iff.1 h name hname
  | some name =>
      have hgiven := nonBlank?_eq_some_iff.1 h
      rw [Option.map_some, Option.getD_some, hgiven.isRecognized_iff]
      constructor
      · rintro ⟨a, ha, hname⟩ ⟨_, name', ⟨⟩, hgiven', hnot⟩
        rw [← nonBlank?_eq_some_iff, h] at hgiven'
        cases hgiven'
        exact hnot a ha hname
      · intro hnot
        by_contra hnone
        refine hnot ⟨members, name, rfl, hgiven, fun a ha hname => hnone ⟨a, ha, hname⟩⟩

/-- The step is what the entry says, with the defaults where it says nothing. -/
structure StepOf (entry : Json) (s : Step) : Prop where
  fields : ∃ members name, entry = .object members ∧ GivenOr members "action" "click" name ∧
    s.action = .parse name ∧ GivenOr members "target" rootSelector s.target ∧
    s.data = (members.lookup "data").bind scalar? ∧
    GivenOr members "description" (s.action.name ++ " " ++ s.target) s.description
  recognized : s.action.isRecognized = true
  target : Neat s.target
  description : s.description ≠ ""

/-- A record that names no action is dropped. -/
theorem step?_of_namesNoAction (h : NamesNoAction (.object members)) :
    step? (.object members) = some none :=
  if_neg (mt isRecognized_actionOf_iff.1 (not_not_intro h))

/-- An entry gives a step unless it names no action. -/
theorem exists_stepOf (h : ¬ NamesNoAction (.object members)) :
    ∃ s, step? (.object members) = some (some s) ∧ StepOf (.object members) s := by
  have hrecognized := isRecognized_actionOf_iff.2 h
  obtain ⟨name, hname, haction⟩ := exists_actionOf members
  have htarget := givenOr_getD members "target" rootSelector
  have hneat : Neat rootSelector := neat_of_trimmed (by decide) (by decide)
  have hdescription := givenOr_getD members "description"
    ((actionOf members).name ++ " " ++ (nonBlank? members "target").getD rootSelector)
  have hdefault : (actionOf members).name ++ " " ++
      (nonBlank? members "target").getD rootSelector ≠ "" := by
    intro hempty
    have hlist := congrArg String.toList hempty
    simp at hlist
  exact ⟨_, if_pos hrecognized, ⟨members, name, rfl, hname, haction, htarget, rfl, hdescription⟩,
    hrecognized, htarget.neat hneat, hdescription.ne_empty hdefault⟩

/-- The entry is an object. -/
def IsRecord (entry : Json) : Prop := ∃ members, entry = .object members

/-- What is no record is no step, and not dropped either. -/
theorem step?_eq_none (h : ¬ IsRecord entry) : step? entry = none := by
  cases entry with
  | object members => exact absurd ⟨members, rfl⟩ h
  | null | bool | number | string | array => rfl

/-- What is dropped are the records that name no action. -/
theorem step?_eq_some_none_iff : step? entry = some none ↔ NamesNoAction entry := by
  constructor
  · intro h
    cases entry with
    | object members =>
        by_contra hnot
        obtain ⟨s, hs, -⟩ := exists_stepOf hnot
        rw [hs] at h
        cases h
    | null | bool | number | string | array => cases h
  · intro h
    obtain ⟨members, _, rfl, -⟩ := id h
    exact step?_of_namesNoAction h

instance : DecidablePred NamesNoAction := fun _ => decidable_of_iff _ step?_eq_some_none_iff

/-- The entries of steps that are kept. -/
def kept (items : List Json) : List Json := items.filter fun item => ¬ NamesNoAction item

/-- Entries that are objects give the steps of those that are kept, in order. -/
theorem exists_steps? {items : List Json} (h : ∀ item ∈ items, IsRecord item) :
    ∃ steps, steps? items = some steps ∧ List.Forall₂ StepOf (kept items) steps := by
  induction items with
  | nil => exact ⟨[], rfl, .nil⟩
  | cons item items ih =>
      obtain ⟨steps, hsteps, hall⟩ := ih fun x hx => h x (List.mem_cons_of_mem _ hx)
      obtain ⟨members, rfl⟩ := h item List.mem_cons_self
      by_cases hnone : NamesNoAction (.object members)
      · refine ⟨steps, ?_, ?_⟩
        · rw [steps?, step?_of_namesNoAction hnone, hsteps]
          rfl
        · rwa [kept, List.filter_cons_of_neg (by simpa using hnone)]
      · obtain ⟨s, hs, hstep⟩ := exists_stepOf hnone
        refine ⟨s :: steps, ?_, ?_⟩
        · rw [steps?, hs, hsteps]
          rfl
        · rw [kept, List.filter_cons_of_pos (by simpa using hnone)]
          exact .cons hstep hall

/-- There are no steps if some item is no record. -/
theorem steps?_eq_none {items : List Json} (h : ∃ item ∈ items, ¬ IsRecord item) :
    steps? items = none := by
  obtain ⟨item, hitem, hnot⟩ := h
  induction items with
  | nil => cases hitem
  | cons x items ih =>
      rw [steps?]
      rcases List.mem_cons.1 hitem with rfl | hitem
      · rw [step?_eq_none hnot]
        rfl
      · rw [ih hitem]
        cases step? x <;> rfl

/-! ### Scenarios -/

/-- The entries of the steps of an entry. -/
def stepEntries (members : List (String × Json)) : List Json :=
  ((members.lookup "steps").bind items?).getD []

/-- The members have **steps of the right form**: none, null, or an array of objects. -/
def HasSteps (members : List (String × Json)) : Prop :=
  members.lookup "steps" = none ∨ members.lookup "steps" = some .null ∨
    ∃ items, members.lookup "steps" = some (.array items) ∧ ∀ item ∈ items, IsRecord item

/-- The entry is **usable**: an object with steps of the right form. -/
def Usable (entry : Json) : Prop := ∃ members, entry = .object members ∧ HasSteps members

/-- An entry with a list of records has the steps of those that are kept. -/
theorem exists_stepsOf? (h : HasSteps members) : ∃ steps, stepsOf? members = some steps ∧
    List.Forall₂ StepOf (kept (stepEntries members)) steps := by
  rcases h with h | h | ⟨items, h, hall⟩
  · exact ⟨[], by rw [stepsOf?, h], by rw [stepEntries, h]; exact .nil⟩
  · exact ⟨[], by rw [stepsOf?, h], by rw [stepEntries, h]; exact .nil⟩
  · obtain ⟨steps, hsteps, hkept⟩ := exists_steps? hall
    exact ⟨steps, by rw [stepsOf?, h]; exact hsteps, by rw [stepEntries, h]; exact hkept⟩

/-- Without a list of records there are no steps. -/
theorem stepsOf?_eq_none (h : ¬ HasSteps members) : stepsOf? members = none := by
  rw [HasSteps, not_or, not_or] at h
  obtain ⟨hsome, hnull, harray⟩ := h
  rw [stepsOf?]
  cases hsteps : members.lookup "steps" with
  | none => exact absurd hsteps hsome
  | some v =>
      cases v with
      | null => exact absurd hsteps hnull
      | array items =>
          refine steps?_eq_none ?_
          by_contra hnone
          refine harray ⟨items, hsteps, fun item hitem => ?_⟩
          by_contra hnot
          exact hnone ⟨item, hitem, hnot⟩
      | bool | number | string | object => rfl

/-- The identifier is what the entry gives, or made of its number. -/
def OwnId (members : List (String × Json)) (number : Nat) (id : String) : Prop :=
  GivenOr members "id" ("scenario_" ++ Decimal.natText number) id

/-- The scenario is what the entry with the given number says. -/
structure ScenarioOf (entry : Json) (number : Nat) (s : Scenario) : Prop where
  fields : ∃ members id, entry = .object members ∧
    OwnId members number id ∧ (s.id = id ∨ ∃ n, s.id = numbered id n) ∧
    GivenOr members "name" ("Scenario " ++ Decimal.natText number) s.name ∧
    List.Forall₂ StepOf (kept (stepEntries members)) s.steps
  valid : s.validate = .ok ()
  id : Neat s.id
  name : Neat s.name
  tags : s.tags.names ≠ []
  time : s.timeTaken = none

/-- Steps with recognized actions are valid. -/
theorem validateFrom_of_recognized {steps : List Step}
    (h : ∀ s ∈ steps, s.action.isRecognized = true) (id : String) (index : Nat) :
    Scenario.validateFrom id index steps = .ok () := by
  induction steps generalizing index with
  | nil => rfl
  | cons s steps ih =>
      have hs : s.validate = .ok () := if_pos (h s List.mem_cons_self)
      rw [Scenario.validateFrom, hs]
      exact ih (fun x hx => h x (List.mem_cons_of_mem _ hx)) (index + 1)

/-- There are tags if there are names. -/
theorem ofList_names_ne_nil {names : List String} (h : names ≠ []) :
    (TagSet.ofList names).names ≠ [] := by
  cases names with
  | nil => exact absurd rfl h
  | cons name names =>
      have hmem : name ∈ TagSet.insertNames (name :: names) := TagSet.mem_insertName.2 (.inl rfl)
      exact List.ne_nil_of_mem hmem

/-- There are tags even where none are given. -/
theorem tagsOf_names_ne_nil (members : List (String × Json)) : (tagsOf members).names ≠ [] := by
  have hnames : ∀ names : List String, (if names.isEmpty then [defaultTag] else names) ≠ [] := by
    intro names
    cases names <;> exact List.cons_ne_nil _ _
  exact ofList_names_ne_nil (hnames _)

/-- Steps that are read have recognized actions. -/
theorem recognized_of_stepOf {items : List Json} {steps : List Step}
    (h : List.Forall₂ StepOf items steps) : ∀ s ∈ steps, s.action.isRecognized = true := by
  induction h with
  | nil =>
      intro s hs
      cases hs
  | cons hstep _ ih =>
      intro s hs
      rcases List.mem_cons.1 hs with rfl | hs
      · exact hstep.recognized
      · exact ih s hs

/-- A usable entry gives a scenario, with the identifier of the entry. -/
theorem exists_scenario? (hentry : Usable entry) (number : Nat) :
    ∃ s, scenario? number entry = some s ∧ ScenarioOf entry number s ∧
      ∃ members, entry = .object members ∧ OwnId members number s.id := by
  obtain ⟨members, rfl, hsteps⟩ := hentry
  obtain ⟨steps, hread, hall⟩ := exists_stepsOf? hsteps
  have hid := givenOr_getD members "id" ("scenario_" ++ Decimal.natText number)
  have hname := givenOr_getD members "name" ("Scenario " ++ Decimal.natText number)
  have hneatId := hid.neat (neat_append_natText (by decide) (by rintro _ ⟨⟩; rfl) number)
  have hneatName := hname.neat (neat_append_natText (by decide) (by rintro _ ⟨⟩; rfl) number)
  have hvalid := validateFrom_of_recognized (recognized_of_stepOf hall)
  refine ⟨⟨(nonBlank? members "id").getD ("scenario_" ++ Decimal.natText number),
    (nonBlank? members "name").getD ("Scenario " ++ Decimal.natText number), steps, tagsOf members,
    none⟩, by rw [scenario?, hread]; rfl, ?_, members, rfl, hid⟩
  exact ⟨⟨members, _, rfl, hid, .inl rfl, hname, hall⟩, hvalid _ 0, hneatId, hneatName,
    tagsOf_names_ne_nil members, rfl⟩

/-- An entry that is not usable is no scenario. -/
theorem scenario?_eq_none (h : ¬ Usable entry) (number : Nat) : scenario? number entry = none := by
  cases entry with
  | object members =>
      have hsteps : ¬ HasSteps members := fun hsteps => h ⟨members, rfl, hsteps⟩
      rw [scenario?, stepsOf?_eq_none hsteps]
      rfl
  | null | bool | number | string | array => rfl

/-! ### Distinct identifiers -/

/-- The first free id is the id with some number. -/
theorem exists_firstFree (taken : List String) (id : String) (n fuel : Nat) :
    ∃ k, firstFree taken id n fuel = numbered id k := by
  induction fuel generalizing n with
  | zero => exact ⟨n, rfl⟩
  | succ fuel ih =>
      rw [firstFree]
      split
      · exact ih (n + 1)
      · exact ⟨n, rfl⟩

/-- An identifier is kept, or gets a number. -/
theorem freshId_cases (taken : List String) (id : String) :
    freshId taken id = id ∨ ∃ n, freshId taken id = numbered id n := by
  rw [freshId]
  split
  · exact .inr (exists_firstFree taken id 2 taken.length)
  · exact .inl rfl

/-- A neat id with a number is neat. -/
theorem neat_numbered {id : String} (h : Neat id) (n : Nat) : Neat (numbered id n) := by
  obtain ⟨hfirst, -⟩ := trimmed_eq_self_iff.1 h.trimmed
  have hne : id.toList ≠ [] := fun hnil => h.ne_empty (String.toList_eq_nil_iff.1 hnil)
  refine neat_append_natText ?_ ?_ n
  · intro hempty
    have hlist := congrArg String.toList hempty
    simp at hlist
  · intro c hc
    rw [String.toList_append, List.head?_append_of_ne_nil _ hne] at hc
    exact hfirst c hc

/-- A neat id stays neat when it is made distinct. -/
theorem neat_freshId {id : String} (h : Neat id) (taken : List String) :
    Neat (freshId taken id) := by
  rcases freshId_cases taken id with heq | ⟨n, heq⟩
  · rwa [heq]
  · rw [heq]
    exact neat_numbered h n

/-- An entry says the same of a scenario with a fresh identifier. -/
theorem ScenarioOf.fresh {number : Nat} {s : Scenario} (h : ScenarioOf entry number s)
    (hid : ∃ members, entry = .object members ∧ OwnId members number s.id) (taken : List String) :
    ScenarioOf entry number { s with id := freshId taken s.id } := by
  obtain ⟨members, rfl, hown⟩ := hid
  obtain ⟨_, _, ⟨⟩, -, -, hname, hsteps⟩ := h.fields
  have hvalid := validateFrom_of_recognized (recognized_of_stepOf hsteps)
  exact ⟨⟨members, s.id, rfl, hown, freshId_cases taken s.id, hname, hsteps⟩, hvalid _ 0,
    neat_freshId h.id taken, h.name, h.tags, h.time⟩

/-! ### Replies -/

/-- The reply **has the entries**: its object is the text of a value, and they are the items of the
array under `scenarios` there. -/
def HasEntries (reply : String) (entries : List Json) : Prop :=
  ∃ object value, extract? reply.toList = some object ∧
    parse? (String.ofList object) = some value ∧
    value.member? "scenarios" = some (.array entries)

/-- The values that have items are the arrays. -/
theorem items?_eq_some_iff {v : Json} {items : List Json} :
    v.items? = some items ↔ v = .array items := by
  cases v <;> simp [items?]

/-- The entries of a reply are those of the list in the object that is found in it. -/
theorem entries?_eq_some_iff {reply : String} {entries : List Json} :
    entries? reply = some entries ↔ HasEntries reply entries := by
  simp only [entries?, Option.bind_eq_bind, Option.bind_eq_some_iff, items?_eq_some_iff]
  constructor
  · rintro ⟨object, hobject, value, hvalue, _, hmember, rfl⟩
    exact ⟨object, value, hobject, hvalue, hmember⟩
  · rintro ⟨object, value, hobject, hvalue, hmember⟩
    exact ⟨object, hobject, value, hvalue, _, hmember, rfl⟩

/-- The scenarios are what the entries say, one for each and in order. -/
def ScenariosOf (entries : List Json) (number : Nat) (scenarios : List Scenario) : Prop :=
  List.Forall₂ (fun numbered s => ScenarioOf numbered.1 numbered.2 s) (entries.zipIdx number)
    scenarios

/-- There are no scenarios if some entry is not usable. -/
theorem scenarios?_eq_none {entries : List Json} (h : ∃ entry ∈ entries, ¬ Usable entry)
    (number : Nat) : scenarios? number entries = none := by
  obtain ⟨entry, hentry, hnot⟩ := h
  induction entries generalizing number with
  | nil => cases hentry
  | cons x entries ih =>
      rw [scenarios?]
      rcases List.mem_cons.1 hentry with rfl | hentry
      · rw [scenario?_eq_none hnot]
        rfl
      · rw [ih (number + 1) hentry]
        cases scenario? number x <;> rfl

/-- Usable entries give a scenario each, and fresh identifiers do not change what they say. -/
theorem exists_scenarios? {entries : List Json} (h : ∀ entry ∈ entries, Usable entry)
    (number : Nat) : ∃ scenarios, scenarios? number entries = some scenarios ∧
      ∀ taken, ScenariosOf entries number (distinctIdsFrom taken scenarios) := by
  induction entries generalizing number with
  | nil => exact ⟨[], rfl, fun _ => .nil⟩
  | cons entry entries ih =>
      obtain ⟨s, hs, hscenario, hid⟩ := exists_scenario? (h entry List.mem_cons_self) number
      obtain ⟨scenarios, hread, hall⟩ :=
        ih (fun x hx => h x (List.mem_cons_of_mem _ hx)) (number + 1)
      refine ⟨s :: scenarios, by rw [scenarios?, hs, hread]; rfl, fun taken => ?_⟩
      exact .cons (hscenario.fresh hid taken) (hall _)

/-- **What a reply gives**: nothing, or one scenario for each entry of its list, in order. One
entry that is not usable makes it nothing. -/
theorem parseScenarios_entries (reply : String) :
    (parseScenarios reply = [] ∨ ∃ entries, HasEntries reply entries ∧
      ScenariosOf entries 1 (parseScenarios reply)) ∧
    ∀ entries, HasEntries reply entries →
      ((∃ entry ∈ entries, ¬ Usable entry) → parseScenarios reply = []) ∧
      ((∀ entry ∈ entries, Usable entry) → ScenariosOf entries 1 (parseScenarios reply)) := by
  have hbad : ∀ entries, HasEntries reply entries → (∃ entry ∈ entries, ¬ Usable entry) →
      parseScenarios reply = [] := by
    intro entries hentries hbad
    rw [parseScenarios, entries?_eq_some_iff.2 hentries, Option.bind_some, scenarios?_eq_none hbad]
  have hgood : ∀ entries, HasEntries reply entries → (∀ entry ∈ entries, Usable entry) →
      ScenariosOf entries 1 (parseScenarios reply) := by
    intro entries hentries hgood
    obtain ⟨scenarios, hread, hall⟩ := exists_scenarios? hgood 1
    rw [parseScenarios, entries?_eq_some_iff.2 hentries, Option.bind_some, hread]
    exact hall []
  refine ⟨?_, fun entries hentries => ⟨hbad entries hentries, hgood entries hentries⟩⟩
  cases hread : entries? reply with
  | none => exact .inl (by rw [parseScenarios, hread]; rfl)
  | some entries =>
      have hentries := entries?_eq_some_iff.1 hread
      by_cases hall : ∀ entry ∈ entries, Usable entry
      · exact .inr ⟨entries, hentries, hgood entries hentries hall⟩
      · refine .inl (hbad entries hentries ?_)
        by_contra hnone
        refine hall fun entry hentry => ?_
        by_contra hnot
        exact hnone ⟨entry, hentry, hnot⟩

/-- A step without an action is a click, and a step with an unknown one is left out. -/
example : parseScenarios
      "\x7b\"scenarios\": [\x7b\"steps\": [\x7b\"action\": \"fly\"\x7d, \x7b\x7d]\x7d]\x7d" =
    [⟨"scenario_1", "Scenario 1", [.plain .click rootSelector], .ofList [defaultTag], none⟩] := by
  decide +kernel

/-- An entry with the given steps. -/
def outline (steps : Json) : Json := .object [("steps", steps)]

/-- A list of one entry. -/
def listOf (entry : Json) : Json := .object [("scenarios", .array [entry])]

/-- The list of a single entry has that entry, in its canonical form. -/
theorem hasEntries_listOf {entry : Json} (h : Printable 125 entry)
    (hextract : extract? (listOf entry).compact = some (listOf entry).compact) :
    HasEntries (listOf entry).text [entry.canonical] := by
  obtain ⟨hlegible, hfits⟩ : Printable Document.depthLimit (listOf entry) :=
    printable_object (by simpa using printable_array (by simpa using h))
  refine ⟨(listOf entry).compact, (listOf entry).canonical, ?_,
    parse?_of_spells (spells_compact _ hlegible) hfits, rfl⟩
  rw [Json.text, String.toList_ofList, hextract]

/-- One entry has a step that is left out and one that is kept; the other has no steps at all. -/
theorem parseScenarios_entries_outline :
    ScenariosOf [outline (.array [.object [("action", .string "fly")], .object []])] 1
        (parseScenarios
          (listOf (outline (.array [.object [("action", .string "fly")], .object []]))).text) ∧
      parseScenarios (listOf (outline (.string "fly"))).text = [] := by
  have hgood : HasEntries
      (listOf (outline (.array [.object [("action", .string "fly")], .object []]))).text
      [outline (.array [.object [("action", .string "fly")], .object []])] := by
    refine hasEntries_listOf ⟨?_, ?_⟩ (by decide +kernel)
    · simp [outline, Legible, LegibleItems, LegibleMembers]
    · simp [outline, FitsIn]
  have hbad : HasEntries (listOf (outline (.string "fly"))).text [outline (.string "fly")] := by
    refine hasEntries_listOf ⟨?_, ?_⟩ (by decide +kernel)
    · simp [outline, Legible, LegibleMembers]
    · simp [outline, FitsIn]
  refine ⟨((parseScenarios_entries _).2 _ hgood).2 ?_, ((parseScenarios_entries _).2 _ hbad).1 ?_⟩
  · intro entry hentry
    obtain rfl := List.mem_singleton.1 hentry
    exact ⟨_, rfl, .inr (.inr ⟨_, rfl, by simp [IsRecord]⟩)⟩
  · refine ⟨_, List.mem_singleton.2 rfl, ?_⟩
    rintro ⟨_, ⟨⟩, h | h | ⟨_, h, _⟩⟩ <;> cases h

end Scenarist.Reply
