import Scenarist.Proofs.Reply.Extraction
import Scenarist.Proofs.Reply.Entries

/-!
# Reading Back Scenarios

Scenarios that are written as the object which a reply is asked for are read back from it. What is
written goes through all that a reply goes through: its object is extracted, its text is read as a
value with the members in the order of their keys, each field is trimmed or gets a default, the
tags are made a set and the identifiers distinct. Regular scenarios (`Regular`) pass through all of
that unchanged, and no string in them needs to be plain.

The one thing that is asked of the text is that no fence occurs in it, since a fence in a string is
taken for a fence of the reply.

## Main results

* `canonical_step`, `canonical_scenario`: what the value of a step and of a scenario is read as.
* `scenario?_scenarioValue`: a regular scenario is read back from its value.
* `parseScenarios_text`: **reading undoes writing**.
-/

namespace Scenarist.Reply

open Json

/-! ### Values in the order of their keys -/

/-- A step as a value, its members in the order of their keys. -/
def stepValue (s : Step) : Json :=
  .ofFields [
    ("action", some (.string s.action.name)),
    ("data", s.data.map .string),
    ("description", some (.string s.description)),
    ("target", some (.string s.target))]

/-- The members of a scenario in the order of their keys. -/
def scenarioMembers (s : Scenario) : List (String × Json) :=
  [("id", .string s.id),
    ("name", .string s.name),
    ("steps", .array (s.steps.map stepValue)),
    ("tags", .array (s.tags.names.map .string))]

/-- A scenario as a value, its members in the order of their keys. -/
def scenarioValue (s : Scenario) : Json := .object (scenarioMembers s)

/-- A step is read with its members in the order of their keys. -/
theorem canonical_step (s : Step) : s.toJson.canonical = stepValue s := by
  obtain ⟨action, target, data, description⟩ := s
  cases data <;> rfl

/-- The value of a step has its members in the order of their keys. -/
theorem canonical_stepValue (s : Step) : (stepValue s).canonical = stepValue s := by
  obtain ⟨action, target, data, description⟩ := s
  cases data <;> rfl

/-- A list of names is in its canonical form. -/
theorem canonical_names (names : List String) :
    canonicalItems (names.map .string) = names.map .string :=
  canonicalItems_map fun _ _ => rfl

/-- A scenario is read with its members in the order of their keys. -/
theorem canonical_scenario {s : Scenario} (h : s.timeTaken = none) :
    s.toJson.canonical = scenarioValue s := by
  have hsteps : canonicalItems (s.steps.map Step.toJson) = s.steps.map stepValue :=
    canonicalItems_map fun x _ => canonical_step x
  rw [scenarioValue, scenarioMembers, ← hsteps, ← canonical_names]
  obtain ⟨id, name, steps, tags, time⟩ := s
  obtain rfl : time = none := h
  rfl

/-- The value of a scenario has its members in the order of their keys. -/
theorem canonical_scenarioValue (s : Scenario) :
    (scenarioValue s).canonical = scenarioValue s := by
  have hsteps : canonicalItems (s.steps.map stepValue) = s.steps.map stepValue :=
    canonicalItems_map fun x _ => canonical_stepValue x
  have hvalue : (scenarioValue s).canonical = .object [("id", .string s.id),
      ("name", .string s.name), ("steps", .array (canonicalItems (s.steps.map stepValue))),
      ("tags", .array (canonicalItems (s.tags.names.map .string)))] := rfl
  rw [hvalue, hsteps, canonical_names, scenarioValue, scenarioMembers]

/-- The object that a reply is asked for, with scenarios as `f` writes them. -/
def payload (f : Scenario → Json) (scenarios : List Scenario) : Json :=
  .object [("scenarios", .array (scenarios.map f))]

/-- The canonical form of a list of scenarios is that of each of them. -/
theorem canonical_payload {f g : Scenario → Json} {scenarios : List Scenario}
    (h : ∀ s ∈ scenarios, (f s).canonical = g s) :
    (payload f scenarios).canonical = payload g scenarios := by
  rw [payload, payload, ← canonicalItems_map h]
  rfl

/-! ### Texts

A scenario holds three brackets inside each other, and the object that lists scenarios two more.
-/

/-- The object of a step is printable, with one bracket. -/
theorem printable_step (n : Nat) (s : Step) : Printable (n + 1) s.toJson := by
  refine printable_ofFields ?_
  simp [printable_string, Action.toJson]

/-- The value of a step is printable, with one bracket. -/
theorem printable_stepValue (n : Nat) (s : Step) : Printable (n + 1) (stepValue s) := by
  refine printable_ofFields ?_
  simp [printable_string]

/-- The object of a scenario is printable: its steps are in a list. -/
theorem printable_scenario (n : Nat) (s : Scenario) : Printable (n + 3) s.toJson := by
  have hsteps := printable_map s.steps (printable_step n)
  have htags := printable_map s.tags.names (printable_string (n + 1))
  refine printable_ofFields ?_
  simp [printable_string, hsteps, htags]

/-- The value of a scenario is printable: its steps are in a list. -/
theorem printable_scenarioValue (n : Nat) (s : Scenario) : Printable (n + 3) (scenarioValue s) := by
  have hsteps := printable_map s.steps (printable_stepValue n)
  have htags := printable_map s.tags.names (printable_string (n + 1))
  refine printable_object ?_
  simp [scenarioMembers, printable_string, hsteps, htags]

/-- A list of scenarios under its key is printable, with two brackets more than a scenario. -/
theorem printable_payload {f : Scenario → Json} {n : Nat} (scenarios : List Scenario)
    (h : ∀ s, Printable n (f s)) : Printable (n + 2) (payload f scenarios) := by
  have hlist := printable_map scenarios h
  refine printable_object ?_
  simp [hlist]

/-! ### Reading back -/

/-- The step is **regular**: its action is recognized, and its texts are neat, whatever its data. -/
structure RegularStep (s : Step) : Prop where
  target : Neat s.target
  description : Neat s.description
  recognized : s.action.isRecognized = true

instance : DecidablePred RegularStep := fun s =>
  decidable_of_iff (Neat s.target ∧ Neat s.description ∧ s.action.isRecognized = true)
    ⟨fun h => ⟨h.1, h.2.1, h.2.2⟩, fun h => ⟨h.target, h.description, h.recognized⟩⟩

/-- The scenario is **regular**: it has tags and no time, and its identifier, its name and its steps
are as the reader would have them. -/
structure Regular (s : Scenario) : Prop where
  id : Neat s.id
  name : Neat s.name
  steps : ∀ x ∈ s.steps, RegularStep x
  tags : s.tags.names ≠ []
  time : s.timeTaken = none

instance : DecidablePred Regular := fun s =>
  decidable_of_iff (Neat s.id ∧ Neat s.name ∧ (∀ x ∈ s.steps, RegularStep x) ∧
      s.tags.names ≠ [] ∧ s.timeTaken = none)
    ⟨fun h => ⟨h.1, h.2.1, h.2.2.1, h.2.2.2.1, h.2.2.2.2⟩,
      fun h => ⟨h.id, h.name, h.steps, h.tags, h.time⟩⟩

/-- A neat text is read as it is. -/
theorem nonBlank?_of_string {members : List (String × Json)} {key s : String}
    (h : members.lookup key = some (.string s)) (hs : Neat s) :
    nonBlank? members key = some s :=
  nonBlank?_eq_some_iff.2 ⟨.string s, s, h, rfl, hs.trimmed.symm, hs.ne_empty⟩

/-- A recognized action is read from its name. -/
theorem parse_name {a : Action} (h : a.isRecognized = true) : Action.parse a.name = a := by
  cases a with
  | other name => cases h
  | goto | fill | click | expect | wait | type | select | hover => decide +kernel

/-- The name of a recognized action is neat. -/
theorem neat_name {a : Action} (h : a.isRecognized = true) : Neat a.name := by
  cases a with
  | other name => cases h
  | goto | fill | click | expect | wait | type | select | hover =>
      exact neat_of_trimmed (by decide) (by decide +kernel)

/-- A step is read from members that hold its fields, in whatever order. -/
theorem step?_of_lookup {members : List (String × Json)} {s : Step} (h : RegularStep s)
    (haction : members.lookup "action" = some (.string s.action.name))
    (htarget : members.lookup "target" = some (.string s.target))
    (hdata : members.lookup "data" = s.data.map .string)
    (hdescription : members.lookup "description" = some (.string s.description)) :
    step? (.object members) = some (some s) := by
  have hread : (s.data.map Json.string).bind scalar? = s.data := by cases s.data <;> rfl
  rw [step?, nonBlank?_of_string haction (neat_name h.recognized),
    nonBlank?_of_string htarget h.target, nonBlank?_of_string hdescription h.description, hdata,
    hread, Option.map_some, Option.getD_some, parse_name h.recognized, if_pos h.recognized]
  rfl

/-- **A regular step is read as itself.** -/
theorem step?_stepValue {s : Step} (h : RegularStep s) : step? (stepValue s) = some (some s) := by
  obtain ⟨action, target, data, description⟩ := s
  cases data <;> exact step?_of_lookup h rfl rfl rfl rfl

/-- Regular steps are read as themselves, and none of them is dropped. -/
theorem steps?_map {steps : List Step} (h : ∀ s ∈ steps, RegularStep s) :
    steps? (steps.map stepValue) = some steps := by
  induction steps with
  | nil => rfl
  | cons s steps ih =>
      rw [List.forall_mem_cons] at h
      rw [List.map_cons, steps?, step?_stepValue h.1, ih h.2]
      rfl

/-- Names are read as themselves. -/
theorem filterMap_scalar? (names : List String) :
    (names.map Json.string).filterMap scalar? = names := by
  rw [List.filterMap_map]
  exact List.filterMap_some

/-- **A regular scenario is read as itself**, whatever its number. -/
theorem scenario?_scenarioValue {s : Scenario} (h : Regular s) (number : Nat) :
    scenario? number (scenarioValue s) = some s := by
  have hid : nonBlank? (scenarioMembers s) "id" = some s.id := nonBlank?_of_string rfl h.id
  have hname : nonBlank? (scenarioMembers s) "name" = some s.name :=
    nonBlank?_of_string rfl h.name
  have hsteps : stepsOf? (scenarioMembers s) = some s.steps := steps?_map h.steps
  have htags : tagsOf (scenarioMembers s) = s.tags := by
    have hlookup : (scenarioMembers s).lookup "tags" =
        some (.array (s.tags.names.map .string)) := rfl
    rw [tagsOf, hlookup]
    simp only [filterMap_scalar?]
    rw [if_neg (by simpa using h.tags), TagSet.ofList_names]
  rw [scenarioValue, scenario?, hid, hname, hsteps, htags]
  obtain ⟨id, name, steps, tags, time⟩ := s
  obtain rfl : time = none := h.time
  rfl

/-- Regular scenarios are read as themselves, in order. -/
theorem scenarios?_map {scenarios : List Scenario} (h : ∀ s ∈ scenarios, Regular s) (number : Nat) :
    scenarios? number (scenarios.map scenarioValue) = some scenarios := by
  induction scenarios generalizing number with
  | nil => rfl
  | cons s scenarios ih =>
      rw [List.forall_mem_cons] at h
      rw [List.map_cons, scenarios?, scenario?_scenarioValue h.1, ih h.2]
      rfl

/-- Identifiers that are distinct stay as they are. -/
theorem distinctIdsFrom_of_nodup {taken : List String} {scenarios : List Scenario}
    (hnodup : (scenarios.map (·.id)).Nodup) (hfree : ∀ s ∈ scenarios, s.id ∉ taken) :
    distinctIdsFrom taken scenarios = scenarios := by
  induction scenarios generalizing taken with
  | nil => rfl
  | cons s scenarios ih =>
      rw [List.map_cons, List.nodup_cons] at hnodup
      rw [List.forall_mem_cons] at hfree
      obtain ⟨hs, hnodup⟩ := hnodup
      have hfresh : freshId taken s.id = s.id := if_neg (by simpa using hfree.1)
      have hrest : ∀ x ∈ scenarios, x.id ∉ s.id :: taken := by
        intro x hx hmem
        rcases List.mem_cons.1 hmem with heq | hmem
        · exact hs (heq ▸ List.mem_map_of_mem hx)
        · exact hfree.2 x hx hmem
      rw [distinctIdsFrom, hfresh, ih hnodup hrest]

/-- A payload lists its scenarios. -/
theorem scenariosIn_payload {scenarios : List Scenario} (hids : (scenarios.map (·.id)).Nodup)
    (h : ∀ s ∈ scenarios, Regular s) :
    scenariosIn (some (payload scenarioValue scenarios)) = scenarios := by
  have hitems : ((payload scenarioValue scenarios).member? "scenarios").bind items? =
      some (scenarios.map scenarioValue) := rfl
  rw [scenariosIn, Option.bind_some, hitems, scenariosFrom, Option.bind_some, scenarios?_map h]
  exact distinctIdsFrom_of_nodup hids fun _ _ => List.not_mem_nil

/-- A text that spells a payload is read as the scenarios, however its members are ordered and its
text is laid out. -/
theorem parseScenarios_of_spells {f : Scenario → Json} {scenarios : List Scenario}
    {cs : List Char} (hids : (scenarios.map (·.id)).Nodup) (h : ∀ s ∈ scenarios, Regular s)
    (hcanonical : ∀ s ∈ scenarios, (f s).canonical = scenarioValue s)
    (hfits : FitsIn Document.depthLimit (payload f scenarios))
    (hcs : Spells (.ofJson (payload f scenarios)) cs) (hfence : Text.occursIn fence cs = false) :
    parseScenarios (String.ofList cs) = scenarios := by
  have hobject : IsObject cs := ⟨_, hcs⟩
  have hextract : extract? (String.ofList cs).toList = some cs := by
    rw [String.toList_ofList]
    exact extract?_of_not_occursIn hobject hfence
  rw [parseScenarios_of_extract? hextract, parse?_of_spells hcs hfits,
    canonical_payload hcanonical, scenariosIn_payload hids h]

/-- A payload is read back from its compact and from its indented text. -/
theorem parseScenarios_payload {f : Scenario → Json} {scenarios : List Scenario} {text : String}
    (hids : (scenarios.map (·.id)).Nodup) (h : ∀ s ∈ scenarios, Regular s)
    (hcanonical : ∀ s ∈ scenarios, (f s).canonical = scenarioValue s)
    (hprintable : ∀ n s, Printable (n + 3) (f s))
    (htext : text = (payload f scenarios).text ∨ text = (payload f scenarios).pretty)
    (hfence : Text.occursIn fence text.toList = false) : parseScenarios text = scenarios := by
  have hdepth : Document.depthLimit = 122 + 5 := rfl
  obtain ⟨hlegible, hfits⟩ := printable_payload scenarios (hprintable 122)
  rw [← hdepth] at hfits
  rcases htext with rfl | rfl
  · rw [Json.text, String.toList_ofList] at hfence
    exact parseScenarios_of_spells hids h hcanonical hfits (spells_compact _ hlegible) hfence
  · rw [Json.pretty, String.toList_ofList] at hfence
    exact parseScenarios_of_spells hids h hcanonical hfits (spells_indented 0 _ hlegible) hfence

/-- **Reading undoes writing**: scenarios are read back from the text of an object that lists them,
compact or indented, with its members in the order of the fields or of their keys. -/
theorem parseScenarios_text {scenarios : List Scenario} {value : Json} {text : String}
    (hids : (scenarios.map (·.id)).Nodup) (h : ∀ s ∈ scenarios, Regular s)
    (hvalue : value = .object [("scenarios", Scenario.listToJson scenarios)] ∨
      value = (Json.object [("scenarios", Scenario.listToJson scenarios)]).canonical)
    (htext : text = value.text ∨ text = value.pretty)
    (hfence : Text.occursIn fence text.toList = false) : parseScenarios text = scenarios := by
  have hcanonical : ∀ s ∈ scenarios, s.toJson.canonical = scenarioValue s := by
    intro s hs
    exact canonical_scenario (h s hs).time
  rcases hvalue with rfl | rfl
  · exact parseScenarios_payload hids h hcanonical printable_scenario htext hfence
  · have hsorted : (Json.object [("scenarios", Scenario.listToJson scenarios)]).canonical =
        payload scenarioValue scenarios := canonical_payload hcanonical
    rw [hsorted] at htext
    exact parseScenarios_payload hids h (fun s _ => canonical_scenarioValue s)
      printable_scenarioValue htext hfence

/-- Two scenarios with signs of JSON in their texts. -/
def signScenarios : List Scenario :=
  [⟨"s1", "Type \x7b and \"",
      [⟨.fill, "[name=\"q\"]", some " \x7d\n", "a \\ and \x60\x60"⟩, ⟨.click, "#go", none, "go"⟩],
      .ofList ["smoke", ""], none⟩,
    ⟨"s1-2", "Leave", [], .ofList ["generated"], none⟩]

theorem parseScenarios_text_signs :
    parseScenarios (Json.object [("scenarios", Scenario.listToJson signScenarios)]).pretty =
      signScenarios := by
  have hfence : Text.occursIn fence
      (Json.object [("scenarios", Scenario.listToJson signScenarios)]).pretty.toList = false := by
    rw [Json.pretty, String.toList_ofList]
    decide +kernel
  exact parseScenarios_text (by decide) (by decide +kernel) (.inl rfl) (.inr rfl) hfence

end Scenarist.Reply
