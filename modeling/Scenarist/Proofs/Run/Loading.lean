import Scenarist.Proofs.Files.Course
import Scenarist.Proofs.Json.Reading
import Scenarist.Proofs.Reply.RoundTrip
import Scenarist.Run.Bundle

/-!
# Loading Scenarios

Scenarios that were written are loaded as they were, whatever texts are in them. They can stand in
a snapshot of a run, in any other object that lists them, or in a plain list. Nothing is asked of
them but that each action was read from a name (`Scenario.Named`), recognized or not: an action is
written as its name, and the name of an action that was read is read as that action again
(`Action.parse_parse`).

The way back has two readers. The text is read as a value first, which puts the members of every
object into the order of their keys; the scenarios are then read from the list in that value, field
by field, fields that were left out getting their defaults. What the first reader refuses is lost:
an object whose brackets are too deep is not read, wherever the deep place is, so that scenarios
next to it are not loaded either (`not_stores_deepNote`).

## Main results

* `Action.parse_parse`: reading an action is done at once.
* `readList_records`: the typed reader undoes writing, whatever the order of the members.
* `stored_loads`: **scenarios that were written are loaded as they were**.
-/

namespace Scenarist

/-! ### Actions -/

/-- **Reading an action is done at once**: the name of an action that was read is read as the same
action. -/
theorem Action.parse_parse (s : String) : Action.parse (Action.parse s).name = Action.parse s := by
  cases hname : Action.ofName? (lowered (trimmed s)) with
  | some a =>
      have hparse : Action.parse s = a := by rw [Action.parse, hname]
      have hmem : a ∈ Action.recognized := List.mem_of_find?_eq_some hname
      have hrecognized : ∀ a ∈ Action.recognized, a.isRecognized = true := by decide
      rw [hparse, Reply.parse_name (hrecognized a hmem)]
  | none =>
      have hparse : Action.parse s = .other (trimmed s) := by rw [Action.parse, hname]
      rw [hparse, Action.name, Action.parse, trimmed_trimmed, hname]

/-- Each action of the scenario was read from a name. -/
def Scenario.Named (s : Scenario) : Prop := ∀ x ∈ s.steps, ∃ name, x.action = .parse name

/-- The numbers of the metadata fit 64 bits. -/
structure Metadata.Fits (x : Metadata) : Prop where
  totalTimeMs : x.totalTimeMs < Nat.pow 2 64
  scenarioCount : x.scenarioCount < Nat.pow 2 64
  stepCount : x.stepCount < Nat.pow 2 64
  improvedSteps : x.improvedSteps < Nat.pow 2 64
  degradedSteps : x.degradedSteps < Nat.pow 2 64
  degradedScenarios : x.degradedScenarios < Nat.pow 2 64
  compiledFiles : x.compiledFiles < Nat.pow 2 64

namespace Bundle

open Json Reply

variable {scenarios : List Scenario} {s : Scenario}

/-! ### Scenarios in the order of their keys -/

/-- A scenario as a value, all members in the order of their keys. -/
def record (s : Scenario) : Json :=
  .ofFields [
    ("id", some (.string s.id)),
    ("name", some (.string s.name)),
    ("steps", some (.array (s.steps.map stepValue))),
    ("tags", some (.array (s.tags.names.map .string))),
    ("timeTakenToCompile", s.timeTaken.map .string)]

/-- The canonical form of a scenario is its record. -/
theorem canonical_toJson (s : Scenario) : s.toJson.canonical = record s := by
  have hsteps : canonicalItems (s.steps.map Step.toJson) = s.steps.map stepValue :=
    canonicalItems_map fun x _ => canonical_step x
  rw [record, ← hsteps, ← canonical_names]
  obtain ⟨id, name, steps, tags, time⟩ := s
  cases time <;> rfl

/-- The record of a scenario is in its canonical form. -/
theorem canonical_record (s : Scenario) : (record s).canonical = record s := by
  have hsteps : canonicalItems (s.steps.map stepValue) = s.steps.map stepValue :=
    canonicalItems_map fun x _ => canonical_stepValue x
  conv_rhs => rw [record, ← hsteps, ← canonical_names]
  obtain ⟨id, name, steps, tags, time⟩ := s
  cases time <;> rfl

/-- The value **lists** the scenarios, the members of each in the order of the fields or of their
keys. -/
def Lists (scenarios : List Scenario) (v : Json) : Prop :=
  v = Scenario.listToJson scenarios ∨ v = (Scenario.listToJson scenarios).canonical

/-- The canonical form of a list of scenarios are their records. -/
theorem canonical_listToJson (scenarios : List Scenario) :
    (Scenario.listToJson scenarios).canonical = .array (scenarios.map record) := by
  rw [Scenario.listToJson, canonical, canonicalItems_map fun s _ => canonical_toJson s]

/-- The canonical form of what lists the scenarios are their records. -/
theorem Lists.canonical {v : Json} (h : Lists scenarios v) :
    v.canonical = .array (scenarios.map record) := by
  rcases h with rfl | rfl
  · exact canonical_listToJson scenarios
  · rw [canonical_listToJson, Json.canonical, canonicalItems_map fun s _ => canonical_record s]

/-- The record of a scenario is printable: its steps are in a list. -/
theorem printable_record (n : Nat) (s : Scenario) : Printable (n + 3) (record s) := by
  have hsteps := printable_map s.steps (printable_stepValue n)
  have htags := printable_map s.tags.names (printable_string (n + 1))
  refine printable_ofFields ?_
  simp [printable_string, hsteps, htags]

/-- Whatever lists the scenarios is printable. -/
theorem Lists.printable {v : Json} (h : Lists scenarios v) (n : Nat) : Printable (n + 4) v := by
  rcases h with rfl | rfl
  · exact printable_map scenarios (printable_scenario n)
  · rw [canonical_listToJson]
    exact printable_map scenarios (printable_record n)

/-! ### The typed reader -/

/-- A step is read with the action that the name of its action is read as. -/
theorem read_stepValue (m : Medium) (s : Step) :
    Step.read m (.ofJson (stepValue s)) = .ok { s with action := .parse s.action.name } := by
  obtain ⟨action, target, data, description⟩ := s
  have haction : Action.read (.string (some action.name)) = .ok (.parse action.name) := rfl
  cases data <;>
    simp [Step.read, Step.shape, stepValue, ofFields, Document.ofJson, Document.ofJsonMembers,
      RecordShape.read, RecordShape.readMembers, RecordShape.find?, RecordShape.missing?, haction,
      Document.asOption, Except.map, bind, Except.bind, pure, Except.pure]

/-- The steps of a scenario are read as themselves. -/
theorem asList_steps (h : s.Named) :
    (Document.ofJson (.array (s.steps.map stepValue))).asList (Step.read .tree) = .ok s.steps := by
  refine asList_array fun x hx => ?_
  obtain ⟨name, hname⟩ := h x hx
  have haction : Action.parse x.action.name = x.action := by rw [hname, Action.parse_parse]
  rw [read_stepValue, haction]

/-- The names of tags are read as themselves. -/
theorem asList_tags (t : TagSet) :
    (Document.ofJson (.array (t.names.map .string))).asList (·.asText) = .ok t.names :=
  asList_array fun _ _ => rfl

/-- A scenario is read with all its fields, those that were left out included. -/
theorem read_record (h : s.Named) : Scenario.read .tree (.ofJson (record s)) = .ok s := by
  have hsteps := asList_steps h
  have htags := asList_tags s.tags
  simp only [Document.ofJson] at hsteps htags
  obtain ⟨id, name, steps, tags, time⟩ := s
  cases time <;>
    simp [Scenario.read, Scenario.shape, record, ofFields, Document.ofJson,
      Document.ofJsonMembers, RecordShape.read, RecordShape.readMembers, RecordShape.find?,
      RecordShape.missing?, hsteps, htags, Document.asOption, Except.map, bind,
      Except.bind, pure, Except.pure]

/-- **The typed reader undoes writing.** -/
theorem readList_records (h : ∀ s ∈ scenarios, s.Named) :
    Scenario.readList .tree (.ofJson (.array (scenarios.map record))) = .ok scenarios :=
  asList_array fun s hs => read_record (h s hs)

/-! ### Files -/

/-- A file with the text **stores** the scenarios: wherever it is, they are loaded from it, and
the spec files that are made of what was loaded are those of the scenarios. -/
structure Stores (text : String) (scenarios : List Scenario) : Prop where
  loads : ∀ t path, t.read path = .ok text → Disk.Succeeds (load Disk.ofTree path) t scenarios t
  compiles : ∀ t path o stamp, t.read path = .ok text →
    Disk.Succeeds (do
      let loaded ← load Disk.ofTree path
      return SpecFile.ofScenarios loaded o stamp) t (SpecFile.ofScenarios scenarios o stamp) t

/-- A file with the text **stores nothing**: wherever it is, it is refused as no JSON. -/
def StoresNothing (text : String) : Prop :=
  ∀ t path, t.read path = .ok text →
    (load Disk.ofTree path).run.run t = (.error (.plain (path ++ " is not valid JSON")), t)

/-- What is loaded from a file depends on its text. -/
theorem load_of_read {t : FileTree} {path text : String} (h : t.read path = .ok text) :
    (load Disk.ofTree path).run.run t = (ofText path text, t) := by
  have hread : (ExceptT.run (liftM (Disk.ofTree.read path) :
      ExceptT Trouble (StateM FileTree) _)).run t = (.ok (.ok text), t) := by
    change (Except.ok (t.read path), t) = _
    rw [h]
  rw [load, ExceptT.run_bind, StateT.run_bind, hread]
  rfl

/-- A text stores the scenarios that are read of it, wherever it is found. -/
theorem stores_of_ofText {text : String} (h : ∀ path, ofText path text = .ok scenarios) :
    Stores text scenarios := by
  have hloads : ∀ t path, t.read path = .ok text →
      Disk.Succeeds (load Disk.ofTree path) t scenarios t := by
    intro t path hread
    rw [Disk.Succeeds, load_of_read hread, h]
  refine ⟨hloads, fun t path o stamp hread => ?_⟩
  exact Disk.succeeds_bind_iff.2 ⟨scenarios, t, hloads t path hread,
    Disk.succeeds_pure_iff.2 ⟨rfl, rfl⟩⟩

/-- A text is loaded as the scenarios if its value has their records for a list. -/
theorem stores_of_parse? {text : String} {v : Json} (h : ∀ s ∈ scenarios, s.Named)
    (hparse : parse? text = some v)
    (hlist : scenarioList? v = some (.array (scenarios.map record))) : Stores text scenarios := by
  refine stores_of_ofText fun path => ?_
  rw [ofText, hparse]
  dsimp only
  rw [hlist]
  dsimp only
  rw [readList_records h]

/-- What is no JSON value stores nothing. -/
theorem storesNothing_of_parse? {text : String} (h : parse? text = none) :
    StoresNothing text := by
  intro t path hread
  rw [load_of_read hread, ofText, h]

/-- An object has the list of the scenarios if its last member under `scenarios` is that list. -/
theorem scenarioList?_object {members : List (String × Json)} {list : Json}
    (hmember : members.reverse.lookup "scenarios" = some list) (hlist : Lists scenarios list) :
    scenarioList? (Json.object members).canonical = some (.array (scenarios.map record)) := by
  change (canonicalMembers [] members).lookup "scenarios" = _
  rw [lookup_canonicalMembers, hmember, Option.map_some, hlist.canonical]
  rfl

/-! ### Snapshots -/

/-- Metadata are printable if their numbers are in range. -/
theorem printable_metadata {x : Metadata} (h : x.Fits) (n : Nat) :
    Printable (n + 1) x.toJson := by
  refine printable_object ?_
  simp [printable_string, printable_bool, printable_nat, h.totalTimeMs, h.scenarioCount,
    h.stepCount, h.improvedSteps, h.degradedSteps, h.degradedScenarios, h.compiledFiles]

/-- A snapshot is printable if the numbers in it are in range. -/
theorem printable_snapshot {x : Snapshot} (h : x.metadata.Fits) (n : Nat) :
    Printable (n + 5) x.toJson := by
  have hscenarios : Printable (n + 4) (Scenario.listToJson x.scenarios) :=
    printable_map x.scenarios (printable_scenario n)
  have hmetadata := printable_metadata h (n + 3)
  refine printable_object ?_
  simp [printable_string, hscenarios, hmetadata]

/-! ### Loading what was written -/

/-- **Scenarios that were written are loaded as they were**: from a snapshot of them, from the text
of any object that lists them unless its brackets are too deep, and from the text of a plain list.
An object with brackets that are too deep is refused. -/
theorem stored_loads (h : ∀ s ∈ scenarios, s.Named) :
    (∀ runId metadata, (Snapshot.capture runId scenarios metadata).metadata.Fits →
      Stores (Snapshot.capture runId scenarios metadata).toJson.pretty scenarios) ∧
    (∀ members list cs, members.reverse.lookup "scenarios" = some list → Lists scenarios list →
      SpellsText (.ofJson (.object members)) cs →
        (FitsIn Document.depthLimit (.object members) → Stores (String.ofList cs) scenarios) ∧
        (¬ FitsIn Document.depthLimit (.object members) → StoresNothing (String.ofList cs))) ∧
    ∀ list cs, Lists scenarios list → SpellsText (.ofJson list) cs →
      Stores (String.ofList cs) scenarios := by
  have hdepth : Document.depthLimit = 122 + 5 := rfl
  refine ⟨?_, ?_, ?_⟩
  · intro runId metadata hfits
    obtain ⟨hlegible, hbrackets⟩ := printable_snapshot hfits 122
    have hspells := spells_indented 0 _ hlegible
    refine stores_of_parse? h (parse?_of_spells hspells (hdepth ▸ hbrackets)) ?_
    exact scenarioList?_object rfl (.inl rfl)
  · intro members list cs hmember hlist hspells
    refine ⟨fun hfits => ?_, fun hdeep => ?_⟩
    · have hparse := parse?_of_spellsText_ofJson hspells hfits
      exact stores_of_parse? h hparse (scenarioList?_object hmember hlist)
    · refine storesNothing_of_parse? (Option.not_isSome_iff_eq_none.1 ?_)
      rwa [parse?_isSome_iff hspells]
  · intro list cs hlist hspells
    have hparse := parse?_of_spellsText_ofJson hspells (hlist.printable 123).fits
    rw [hlist.canonical] at hparse
    exact stores_of_parse? h hparse rfl

/-! ### Brackets that are too deep -/

/-- Brackets inside each other, one more than the number. -/
def brackets : Nat → Json
  | 0 => .array []
  | n + 1 => .array [brackets n]

/-- A nest of brackets is printable with one bracket more than it has inside. -/
theorem printable_brackets (n : Nat) : Printable (n + 1) (brackets n) := by
  induction n with
  | zero => exact printable_array (by simp)
  | succ n ih => exact printable_array (by simpa using ih)

/-- A nest of brackets needs them all. -/
theorem not_fitsIn_brackets (n : Nat) : ¬ FitsIn n (brackets n) := by
  induction n with
  | zero => exact id
  | succ n ih =>
      intro h
      exact ih (h (brackets n) (by simp))

/-- An object that lists scenarios next to a note with one bracket too many. -/
def deepNote (scenarios : List Scenario) : Json :=
  .object [("note", brackets 126), ("scenarios", Scenario.listToJson scenarios)]

/-- The compact text of a deep note spells it. -/
theorem spellsText_deepNote (scenarios : List Scenario) :
    SpellsText (.ofJson (deepNote scenarios)) (deepNote scenarios).compact := by
  have hlist : Printable 127 (Scenario.listToJson scenarios) :=
    printable_map scenarios (printable_scenario 123)
  have hdeep : Printable 128 (deepNote scenarios) := by
    refine printable_object ?_
    simp [printable_brackets, hlist]
  exact (spells_compact _ hdeep.legible).text

/-- A deep note has too many brackets inside each other to be read. -/
theorem not_fitsIn_deepNote (scenarios : List Scenario) :
    ¬ FitsIn Document.depthLimit (deepNote scenarios) := fun h =>
  not_fitsIn_brackets 126 (h ("note", brackets 126) (by simp))

/-- **What is too deep is lost with all that stands next to it**: a list of scenarios, here an empty
one, is not loaded from an object with a note that is too deep. -/
theorem not_stores_deepNote : ¬ Stores (deepNote []).text [] := by
  intro hstores
  have hunread : parse? (deepNote []).text = none := by
    rw [Json.text, ← Option.not_isSome_iff_eq_none, parse?_isSome_iff (spellsText_deepNote [])]
    exact not_fitsIn_deepNote []
  have hfile : (FileTree.mk [(["in.json"], .file (deepNote []).text)]).read "in.json" =
      .ok (deepNote []).text := rfl
  have hrefused := storesNothing_of_parse? hunread _ _ hfile
  have hloaded := hstores.loads _ _ hfile
  rw [Disk.Succeeds, hrefused] at hloaded
  cases hloaded

/-- Scenarios with blanks, signs and controls in their texts, and with an action that is not
recognized. -/
def keepsakes : List Scenario :=
  [⟨"", "Say \"hi\"\n",
      [⟨.parse "\tDrag it ", "#a", some "", "\x01 \\ é"⟩,
        ⟨.parse " GOTO", "https://x.test", none, ""⟩],
      .ofList ["b", "a", ""], some "0.10s"⟩,
    ⟨"s1", "", [], .empty, none⟩]

/-- An object that lists the scenarios in its last member. -/
def album : Json :=
  .object [("scenarios", .null), ("total", .nat 2),
    ("scenarios", (Scenario.listToJson keepsakes).canonical)]

/-- They are loaded from a snapshot, from an object with another member under the same key, and from
a list, but not from beside a note that is too deep. -/
theorem stored_loads_keepsakes :
    Stores (Snapshot.capture "run" keepsakes
      (.start ⟨2024, 3, 5⟩ "m" 1200 .withRepair .repaired)).toJson.pretty keepsakes ∧
    Stores album.text keepsakes ∧
    StoresNothing (deepNote keepsakes).text ∧
    Stores (Scenario.listToJson keepsakes).text keepsakes := by
  have hnamed : ∀ s ∈ keepsakes, s.Named := by simp [keepsakes, Scenario.Named]
  have hlist : Lists keepsakes (Scenario.listToJson keepsakes) := .inl rfl
  have hsorted : Lists keepsakes (Scenario.listToJson keepsakes).canonical := .inr rfl
  have halbum : Printable Document.depthLimit album := by
    have hnull : Printable 126 .null := ⟨trivial, trivial⟩
    refine printable_object ?_
    simp [hnull, printable_nat, hsorted.printable 122]
  obtain ⟨hsnapshot, hobject, hplain⟩ := stored_loads hnamed
  refine ⟨hsnapshot _ _ ⟨?_, ?_, ?_, ?_, ?_, ?_, ?_⟩, ?_, ?_, ?_⟩
  any_goals decide
  · exact (hobject _ _ _ rfl hsorted (spells_compact album halbum.legible).text).1 halbum.fits
  · exact (hobject _ _ _ rfl hlist (spellsText_deepNote keepsakes)).2 (not_fitsIn_deepNote _)
  · exact hplain _ _ hlist (spells_compact _ (hlist.printable 0).legible).text

end Bundle

end Scenarist
