import Scenarist.Command.Host
import Scenarist.Proofs.Files.Course
import Scenarist.Proofs.Files.Place
import Scenarist.Proofs.Toml.Document
import Scenarist.Proofs.Toml.Limit

/-!
# Saved Settings Are Loaded Again

Settings are saved as a TOML text and read back from it, record by record. A record `Returns` if its
table can be held and the typed reader makes the same record of the table that comes back; a record
of records returns if its parts do. Absent fields are left out of the text. A key that is left out
is absent again, a temperature that is left out has its default then (`GeminiSettings.returned`).

A template is any JSON value without `null`, and comes back whole, on a line or under headers
(`Tool.asJson_readBack`). Only the templates can be deeper than the reader follows
(`Settings.fitsUnder_members`); settings with such a template are saved, and not loaded.

## Main results

* `Tool.asJson_readBack`: **a template is read back as it was**.
* `Settings.returns`: what is read of the table that comes back.
* `Settings.ofToml_render`, `Settings.ofToml_render_of_not_fits`: what is read of the text.
* `Command.saved_loads`: **saved settings are loaded again** exactly if their templates fit.
-/

namespace Scenarist

open Json (Document RecordShape)
open Toml (arranged readBack reread ownMembers headedMembers hasHeader MemberFits depthLimit)

/-! ### Records -/

/-- A record that was written as a table **returns**: its table can be held, and the record is read
of how the table reads back. -/
structure Returns {α : Type} (read : Document → Json.Reading α) (v : Toml) (x : α) : Prop where
  held : Toml.Held v
  header : hasHeader v = true
  reads : read (arranged v).toDocument = .ok x

/-- A record is read of how its table reads back if it is read of the members, those with headers
last, and no field that must be there is missing. -/
theorem reads_table {α : Type} {r : RecordShape α} {members : List (String × Toml)} {x : α}
    (seen : List Nat)
    (h : r.readMembers [] r.blank ((ownMembers members ++ headedMembers members).map
      fun m => (some m.1, m.2.toDocument)) = .ok (seen, x))
    (hmissing : RecordShape.missing? seen 0 r.fields = none) :
    r.read .toml (arranged (.table members)).toDocument = .ok x := by
  rw [arranged, Toml.toDocument_table, RecordShape.read, h]
  dsimp only [bind, Except.bind]
  rw [hmissing]
  rfl

namespace GeneratorSettings

variable {s : GeneratorSettings}

/-- The table of the settings of the generator, which is stored with a number in range only. -/
theorem stored_eq (h : s.toJson.Storable) :
    s.toJson.stored = .table [("min_scenarios", .integer s.minScenarios)] := by
  have hn : s.minScenarios < 2 ^ 63 := by simpa [toJson] using h
  rw [← Json.stored_nat hn, toJson, Json.stored_object h]
  rfl

/-- The settings of the generator return. -/
theorem returns (h : s.toJson.Storable) : Returns (read .toml) s.toJson.stored s := by
  have hn : s.minScenarios < 2 ^ 63 := by simpa [toJson] using h
  rw [stored_eq h]
  refine ⟨?_, rfl, ?_⟩
  · simp [Toml.Held, Toml.MembersHeld]
    omega
  · refine reads_table [0] ?_ rfl
    simp [ownMembers, headedMembers, hasHeader, reread, shape, RecordShape.readMembers,
      RecordShape.find?, Toml.asNat_integer, Except.map]

end GeneratorSettings

namespace RepairSettings

variable {s : RepairSettings}

/-- The table of the settings of the repair, which is stored with numbers in range only. -/
theorem stored_eq (h : s.toJson.Storable) : s.toJson.stored = .table [
    ("enabled", .bool s.enabled), ("step_delay_ms", .integer s.stepDelayMs),
    ("overall_timeout_secs", .integer s.overallTimeoutSecs)] := by
  have hnumbers : s.stepDelayMs < 2 ^ 63 ∧ s.overallTimeoutSecs < 2 ^ 63 := by
    simpa [toJson] using h
  rw [← Json.stored_nat hnumbers.1, ← Json.stored_nat hnumbers.2, toJson, Json.stored_object h]
  rfl

/-- The settings of the repair return. -/
theorem returns (h : s.toJson.Storable) : Returns (read .toml) s.toJson.stored s := by
  have hnumbers : s.stepDelayMs < 2 ^ 63 ∧ s.overallTimeoutSecs < 2 ^ 63 := by
    simpa [toJson] using h
  rw [stored_eq h]
  refine ⟨?_, rfl, ?_⟩
  · simp [Toml.Held, Toml.MembersHeld]
    omega
  · refine reads_table [2, 1, 0] ?_ rfl
    simp [ownMembers, headedMembers, hasHeader, reread, shape, RecordShape.readMembers,
      RecordShape.find?, Toml.asNat_integer, Toml.asBool_bool, Except.map]

end RepairSettings

namespace SpecOptions

variable {o : SpecOptions}

/-- The options of the emitted text can always be stored: they are names. -/
theorem storable_toJson : o.toJson.Storable := by simp [toJson]

/-- The table of the options of the emitted text. -/
theorem stored_eq : o.toJson.stored = .table [
    ("selector_strategy", .string o.strategy.name), ("language", .string o.language.name)] := by
  rw [toJson, Json.stored_object storable_toJson]
  rfl

/-- A strategy is read of its name. -/
theorem read_strategy (x : Strategy) :
    Strategy.read .toml (Toml.string x.name).toDocument = .ok x := by
  cases x <;> rfl

/-- A language is read of its name. -/
theorem read_language (x : Language) :
    Language.read .toml (Toml.string x.name).toDocument = .ok x := by
  cases x <;> rfl

/-- The options of the emitted text return, whatever their record is called and whether it must be
there. -/
theorem returns (name : String) (presence : Json.Presence) :
    Returns ((shape name presence .toml).read .toml) o.toJson.stored o := by
  rw [stored_eq]
  refine ⟨by simp [Toml.Held, Toml.MembersHeld], rfl, reads_table [1, 0] ?_ ?_⟩
  · simp [ownMembers, headedMembers, hasHeader, reread, shape, RecordShape.readMembers,
      RecordShape.find?, read_strategy, read_language, Except.map]
  · simp [shape, RecordShape.missing?]

end SpecOptions

/-! ### The temperature -/

namespace GeminiSettings

variable {s : GeminiSettings}

/-- The settings as they are read back: where no temperature was written it is the default. -/
def returned (s : GeminiSettings) : GeminiSettings :=
  { s with temperature := match s.temperature with
      | some x => some (Toml.rereadFloat x.convert).convert
      | none => some defaultTemperature }

/-- **A temperature that was written is the same value in JSON when it is read back**: it is not
changed if it is finite, and has no value if it is not. -/
theorem canonical_temperature (x : Single) :
    (Json.number (.single (Toml.rereadFloat x.convert).convert)).canonical =
      (Json.number (.single x)).canonical := by
  by_cases hx : x.isFinite = true
  · rw [Toml.rereadFloat_of_isFinite (Binary.ratio_convert hx).1, Binary.convert_convert hx]
  · have hwide : (x.convert : Double).isFinite = false :=
      Binary.isFinite_convert (Bool.eq_false_iff.2 hx)
    have hback : ((Toml.rereadFloat x.convert).convert : Single).isFinite = false :=
      Binary.isFinite_convert (by rw [Toml.isFinite_rereadFloat, hwide])
    rw [Json.canonical, Json.canonical, hback, Bool.eq_false_iff.2 hx]
    rfl

/-- Settings with a temperature are the same value in JSON when they are read back. -/
theorem canonical_returned (h : s.temperature.isSome = true) :
    s.returned.toJson.canonical = s.toJson.canonical := by
  obtain ⟨endpoint, model, apiKey, timeoutSecs, temperature⟩ := s
  obtain ⟨x, rfl⟩ := Option.isSome_iff_exists.1 h
  refine Json.canonical_object_congr ?_
  cases apiKey <;> simp [returned, canonical_temperature]

/-- The settings of the service return; a temperature that was left out has its default then. -/
theorem returns (h : s.toJson.Storable) : Returns (read .toml) s.toJson.stored s.returned := by
  obtain ⟨endpoint, model, apiKey, timeoutSecs, temperature⟩ := s
  have htimeout : timeoutSecs < 2 ^ 63 := by
    cases apiKey <;> cases temperature <;> simpa [toJson, Json.ofFields] using h
  rw [toJson, Json.ofFields] at h ⊢
  rw [Json.stored_object h]
  refine ⟨?_, rfl, ?_⟩
  · cases apiKey <;> cases temperature <;>
      simp [Toml.Held, Toml.MembersHeld, Json.stored_nat htimeout] <;> omega
  · cases apiKey <;> cases temperature <;>
      simp [Json.stored_nat htimeout, arranged, ownMembers, headedMembers, hasHeader, reread,
        Toml.toDocument_table, read, shape, RecordShape.read, RecordShape.readMembers,
        RecordShape.find?, RecordShape.missing?, Toml.asNat_integer, Toml.asText_string,
        Toml.asOption_string, Toml.asOption_float, Except.map, bind, Except.bind, pure,
        Except.pure] <;> rfl

/-- The settings of the service are never too deep: there is no table inside theirs. -/
theorem memberFits_stored (h : s.toJson.Storable) : MemberFits 0 s.toJson.stored := by
  obtain ⟨endpoint, model, apiKey, timeoutSecs, temperature⟩ := s
  have htimeout : timeoutSecs < 2 ^ 63 := by
    cases apiKey <;> cases temperature <;> simpa [toJson, Json.ofFields] using h
  rw [toJson, Json.ofFields] at h ⊢
  rw [Json.stored_object h]
  cases apiKey <;> cases temperature <;> simp [Json.stored_nat htimeout, depthLimit]

end GeminiSettings

/-! ### Templates -/

namespace Tool

variable {t : Tool}

/-- A tool can be stored if its template can. -/
theorem storable_iff : t.toJson.Storable ↔ t.arguments.Storable := by simp [toJson]

/-- The table of a tool. -/
theorem stored_eq (h : t.arguments.Storable) : t.toJson.stored =
    .table [("name", .string t.name), ("arguments", t.arguments.stored)] := by
  rw [toJson, Json.stored_object (storable_iff.2 h)]
  rfl

/-- **A template is read back as it was**, whether on a line or under headers. -/
theorem asJson_readBack {v : Json} (h : v.Storable) (hheld : v.Held) :
    (readBack v.stored).toDocument.asJson = .ok v := by
  obtain ⟨hstored, hsame⟩ := Toml.held_of_ofJson? v hheld h.ofJson?
  rw [Toml.asJson_toDocument, Toml.canonical_readBack hstored, hsame,
    Json.canonical_of_held v hheld]

/-- A tool returns. Its template comes last when it is read back, on its line or under its
header. -/
theorem returns (h : t.arguments.Storable) (hheld : t.arguments.Held) :
    Returns (read .toml) t.toJson.stored t := by
  have harguments := asJson_readBack h hheld
  have hstored := (Toml.held_of_ofJson? t.arguments hheld h.ofJson?).1
  have hname : hasHeader (.string t.name) = false := rfl
  rw [stored_eq h]
  have hmembers :
      ownMembers [("name", .string t.name), ("arguments", t.arguments.stored)] ++
          headedMembers [("name", .string t.name), ("arguments", t.arguments.stored)] =
        [("name", .string t.name), ("arguments", readBack t.arguments.stored)] := by
    rw [readBack]
    by_cases hheader : hasHeader t.arguments.stored = true <;>
      simp [ownMembers, headedMembers, hheader, hname, reread]
  refine ⟨by simp [Toml.Held, Toml.MembersHeld, hstored], rfl, reads_table [1, 0] ?_ rfl⟩
  rw [hmembers]
  simp [shape, RecordShape.readMembers, RecordShape.find?, Toml.asText_string, harguments,
    Except.map]

/-- The template of the tool **fits** a settings file: in the place it has there, no header has more
parts than can be read, and no value more brackets. -/
def Fits (t : Tool) : Prop := MemberFits 3 t.arguments.stored

/-- A tool fits in its place if its template does. -/
theorem memberFits_stored (h : t.arguments.Storable) :
    MemberFits 2 t.toJson.stored ↔ t.Fits := by
  rw [stored_eq h, Fits]
  simp [depthLimit]

end Tool

namespace Toolbox

variable {t : Toolbox}

/-- The tools of a toolbox. -/
def tools (t : Toolbox) : List Tool :=
  [t.navigate, t.click, t.fill, t.typeText, t.assertVisible, t.waitFor, t.selectOption, t.hover,
    t.validateSelector]

/-- The keys of the tools. -/
def keys : List String :=
  ["navigate", "click", "fill", "type_text", "assert_visible", "wait_for", "select_option", "hover",
    "validate_selector"]

/-- A toolbox can be stored if the templates of its tools can. -/
theorem storable_iff : t.toJson.Storable ↔ ∀ x ∈ t.tools, x.arguments.Storable := by
  simp [toJson, tools, Tool.storable_iff]

/-- The table of a toolbox: one table for each tool, under its key. -/
theorem stored_eq (h : t.toJson.Storable) :
    t.toJson.stored = .table (keys.zip (t.tools.map fun x => x.toJson.stored)) := by
  rw [toJson, Json.stored_object h]
  rfl

/-- A toolbox returns if all its tools do. -/
theorem returns (h : t.toJson.Storable) (hheld : ∀ x ∈ t.tools, x.arguments.Held) :
    Returns (read .toml) t.toJson.stored t := by
  have htools : ∀ x ∈ t.tools, Returns (Tool.read .toml) x.toJson.stored x := fun x hx =>
    x.returns (storable_iff.1 h x hx) (hheld x hx)
  have hhelds : ∀ x ∈ t.tools, Toml.Held x.toJson.stored := fun x hx => (htools x hx).held
  have hheaders : ∀ x ∈ t.tools, hasHeader x.toJson.stored = true := fun x hx =>
    (htools x hx).header
  have hreads : ∀ x ∈ t.tools, Tool.read .toml (arranged x.toJson.stored).toDocument = .ok x :=
    fun x hx => (htools x hx).reads
  simp only [tools, List.forall_mem_cons] at hhelds hheaders hreads
  rw [stored_eq h]
  refine ⟨?_, rfl, ?_⟩
  · simp [Toml.Held, Toml.MembersHeld, keys, tools, hhelds]
  · refine reads_table [8, 7, 6, 5, 4, 3, 2, 1, 0] ?_ rfl
    simp [keys, tools, ownMembers, headedMembers, hheaders, hreads, shape, toolField,
      RecordShape.readMembers, RecordShape.find?, Except.map]

/-- A toolbox fits in its place if the templates of its tools do. -/
theorem memberFits_stored (h : t.toJson.Storable) :
    MemberFits 1 t.toJson.stored ↔ ∀ x ∈ t.tools, x.Fits := by
  have htools : ∀ x ∈ t.tools, MemberFits 2 x.toJson.stored ↔ x.Fits := fun x hx =>
    x.memberFits_stored (storable_iff.1 h x hx)
  rw [stored_eq h]
  simp [keys, tools, depthLimit] at htools ⊢
  simp [htools]

end Toolbox

namespace AutomationSettings

variable {s : AutomationSettings}

/-- The settings of the automation can be stored if their numbers are in range and their tools
can. -/
theorem storable_iff : s.toJson.Storable ↔
    s.callTimeoutMs < 2 ^ 63 ∧ s.connectTimeoutMs < 2 ^ 63 ∧ s.tools.toJson.Storable := by
  simp [toJson]

/-- The table of the settings of the automation. -/
theorem stored_eq (h : s.toJson.Storable) : s.toJson.stored = .table [
    ("command", .string s.command), ("args", .ofTexts s.args),
    ("call_timeout_ms", .integer s.callTimeoutMs),
    ("connect_timeout_ms", .integer s.connectTimeoutMs), ("tools", s.tools.toJson.stored)] := by
  obtain ⟨hcall, hconnect, -⟩ := storable_iff.1 h
  rw [← Json.stored_nat hcall, ← Json.stored_nat hconnect, ← Json.stored_texts, toJson,
    Json.stored_object h]
  rfl

/-- The settings of the automation return. Their tools have headers, so they come last, as they were
written. -/
theorem returns (h : s.toJson.Storable) (hheld : ∀ x ∈ s.tools.tools, x.arguments.Held) :
    Returns (read .toml) s.toJson.stored s := by
  obtain ⟨hcall, hconnect, htools⟩ := storable_iff.1 h
  have hreturns := Toolbox.returns htools hheld
  have hstring (text : String) : hasHeader (.string text) = false := rfl
  have hinteger (n : Int) : hasHeader (.integer n) = false := rfl
  rw [stored_eq h]
  refine ⟨?_, rfl, ?_⟩
  · simp [Toml.Held, Toml.MembersHeld, Toml.held_ofTexts, hreturns.held]
    omega
  · refine reads_table [4, 3, 2, 1, 0] ?_ rfl
    simp [ownMembers, headedMembers, hstring, hinteger, Toml.hasHeader_ofTexts, hreturns.header,
      reread, Toml.reread_ofTexts, hreturns.reads, shape, RecordShape.readMembers,
      RecordShape.find?, Toml.asText_string, Toml.asList_ofTexts, Toml.asNat_integer, Except.map]

/-- The settings of the automation fit in their place if the templates of their tools do: the list
of arguments is on a line. -/
theorem memberFits_stored (h : s.toJson.Storable) :
    MemberFits 0 s.toJson.stored ↔ ∀ x ∈ s.tools.tools, x.Fits := by
  have htools := Toolbox.memberFits_stored (storable_iff.1 h).2.2
  have hargs : MemberFits 1 (.ofTexts s.args) := by
    rw [MemberFits, if_neg (by simp [Toml.hasHeader_ofTexts])]
    exact Toml.fitsIn_ofTexts s.args
  rw [stored_eq h]
  simp [depthLimit, hargs, htools]

end AutomationSettings

/-! ### Settings -/

namespace Settings

variable {s : Settings}

/-- The settings with another temperature. -/
def withTemperature (s : Settings) (temperature : Option Single) : Settings :=
  { s with gemini := { s.gemini with temperature := temperature } }

/-- The templates of the tools are **held**. -/
def Held (s : Settings) : Prop := ∀ t ∈ s.automation.tools.tools, t.arguments.Held

/-- The settings **fit** a file: the templates of all tools do. -/
def Fits (s : Settings) : Prop := ∀ t ∈ s.automation.tools.tools, t.Fits

/-- Settings can be stored if their parts can. The options of the emitted text always can. -/
theorem storable_iff : s.toJson.Storable ↔
    s.gemini.toJson.Storable ∧ s.generator.toJson.Storable ∧ s.automation.toJson.Storable ∧
      s.repair.toJson.Storable := by
  simp [toJson, SpecOptions.storable_toJson]

/-- The members of the settings in a file. -/
def members (s : Settings) : List (String × Toml) :=
  [("gemini", s.gemini.toJson.stored), ("generator", s.generator.toJson.stored),
    ("automation", s.automation.toJson.stored), ("repair", s.repair.toJson.stored),
    ("codegen", s.spec.toJson.stored)]

/-- The table of the settings has the members. -/
theorem stored_eq (h : s.toJson.Storable) : s.toJson.stored = .table s.members := by
  rw [toJson, Json.stored_object h]
  rfl

/-- **What is read of the table that comes back** are the settings, with the temperature that is
read back. -/
theorem returns (h : s.toJson.Storable) (hheld : s.Held) :
    Returns (read .toml) (.table s.members) { s with gemini := s.gemini.returned } := by
  obtain ⟨hgemini, hgenerator, hautomation, hrepair⟩ := storable_iff.1 h
  have hgemini := GeminiSettings.returns hgemini
  have hgenerator := GeneratorSettings.returns hgenerator
  have hautomation := AutomationSettings.returns hautomation hheld
  have hrepair := RepairSettings.returns hrepair
  have hspec := s.spec.returns "CodegenConfig" .optional
  refine ⟨?_, rfl, ?_⟩
  · simp [Toml.Held, Toml.MembersHeld, members, hgemini.held, hgenerator.held, hautomation.held,
      hrepair.held, hspec.held]
  · refine reads_table [4, 3, 2, 1, 0] ?_ rfl
    simp [members, ownMembers, headedMembers, hgemini.header, hgenerator.header,
      hautomation.header, hrepair.header, hspec.header, hgemini.reads, hgenerator.reads,
      hautomation.reads, hrepair.reads, hspec.reads, shape, RecordShape.readMembers,
      RecordShape.find?, Except.map]

/-- Nothing but the templates can be too deep. -/
theorem fitsUnder_members (h : s.toJson.Storable) :
    Toml.FitsUnder 0 (.table s.members) ↔ s.Fits := by
  obtain ⟨hgemini, hgenerator, hautomation, hrepair⟩ := storable_iff.1 h
  have hfits := GeminiSettings.memberFits_stored hgemini
  have htools := AutomationSettings.memberFits_stored hautomation
  rw [Toml.fitsUnder_table]
  simp [members, hfits, GeneratorSettings.stored_eq hgenerator, RepairSettings.stored_eq hrepair,
    SpecOptions.stored_eq, htools, depthLimit, Fits]

/-- What is written of the settings. -/
theorem toToml_eq_ok_iff {text : String} :
    s.toToml = .ok text ↔ s.toJson.Storable ∧ text = Toml.render s.members := by
  by_cases h : s.toJson.Storable
  · rw [toToml, h.ofJson?, stored_eq h]
    simp [h, eq_comm]
  · have hnone : Toml.ofJson? s.toJson = none := by simpa [Json.Storable] using h
    rw [toToml, hnone]
    simp [h]

/-- **What is read of the text of settings** whose templates fit. -/
theorem ofToml_render (h : s.toJson.Storable) (hheld : s.Held) (hfits : s.Fits) :
    ofToml (Toml.render s.members) = .ok { s with gemini := s.gemini.returned } := by
  have hreturns := returns h hheld
  rw [ofToml, Toml.parse?_render hreturns.held ((fitsUnder_members h).2 hfits)]
  dsimp only
  rw [hreturns.reads]

/-- Nothing is read of the text of settings with a template that does not fit. -/
theorem ofToml_render_of_not_fits (h : s.toJson.Storable) (hheld : s.Held) (hdeep : ¬ s.Fits) :
    ofToml (Toml.render s.members) = .error (.tomlRead "malformed") := by
  have hreturns := returns h hheld
  rw [ofToml, Toml.parse?_render_eq_none hreturns.held (mt (fitsUnder_members h).1 hdeep)]

end Settings

/-! ### Files -/

/-- The environment overrides nothing. -/
def Environment.Silent (e : Environment) : Prop :=
  e.apiKey = none ∧ e.model = none ∧ e.command = none

/-- A silent environment leaves the settings as they are. -/
theorem Environment.Silent.override {e : Environment} (h : e.Silent) (s : Settings) :
    e.override s = s := by
  obtain ⟨hkey, hmodel, hcommand⟩ := h
  simp [Environment.override, hkey, hmodel, hcommand]

namespace Command

variable {s : Settings} {t u : FileTree} {path : String}

/-- A failure is reported as trouble, and a result is kept. -/
theorem orTrouble_eq_ok_iff {α : Type} {r : Except Failure α} {a : α} :
    orTrouble r = .ok a ↔ r = .ok a := by
  cases r <;> simp [orTrouble]

/-- An error of the file system is reported as trouble, and a result is kept. -/
theorem ofIo_eq_ok_iff {α : Type} {r : Except FileError α} {a : α} :
    ofIo r = .ok a ↔ r = .ok a := by
  cases r <;> simp [ofIo]

/-- Settings that were saved are in the file. -/
theorem read_of_saveSettings (h : Disk.Succeeds (saveSettings Disk.ofTree s path) t () u) :
    ∃ text, s.toToml = .ok text ∧ u.read path = .ok text := by
  rw [saveSettings] at h
  simp only [Disk.succeeds_bind_iff, Disk.succeeds_step_iff, Disk.succeeds_result_iff,
    orTrouble_eq_ok_iff, ofIo_eq_ok_iff] at h
  obtain ⟨text, _, ⟨htext, rfl⟩, _, _, -, _, v, ⟨-, rfl⟩, _, _, hchange, rfl, rfl⟩ := h
  change Disk.changing (·.write path text) v = _ at hchange
  have hwrite := Disk.changing_eq_ok_iff.1 hchange
  obtain ⟨p, hp, hroot, hd, rfl⟩ := FileTree.write_eq_ok hwrite
  exact ⟨text, htext, FileTree.read_eq_ok_iff.2
    ⟨p, FileTree.place_of_keeps (FileTree.put_keeps hd) hp, FileTree.lookup_put _ _ _ hroot⟩⟩

/-- What is loaded from a file depends on its text. -/
theorem loadSettings_of_read {e : Environment} {text : String} (h : u.read path = .ok text) :
    (loadSettings Disk.ofTree e path).run.run u =
      (Trouble.ofFailure ("Failed to load " ++ path) (Settings.load e (some text)), u) := by
  have hexists : u.exists? path = true := by
    obtain ⟨p, hp, hfound⟩ := FileTree.read_eq_ok_iff.1 h
    rw [FileTree.exists?, hp]
    dsimp only
    rw [hfound]
    rfl
  have hstep : Disk.ofTree.exists? path u = (true, u) := congrArg (·, u) hexists
  have hstep' : Disk.ofTree.read path u = (.ok text, u) := congrArg (·, u) h
  rw [loadSettings, Disk.run_step_bind hstep, if_pos rfl, Disk.run_step_bind hstep']
  rfl

variable {e : Environment}

/-- What is loaded of saved settings whose templates fit. -/
theorem loads_of_fits (hsilent : e.Silent) (hheld : s.Held)
    (h : Disk.Succeeds (saveSettings Disk.ofTree s path) t () u) (hfits : s.Fits) :
    Disk.Succeeds (loadSettings Disk.ofTree e path) u { s with gemini := s.gemini.returned } u := by
  obtain ⟨text, htext, hread⟩ := read_of_saveSettings h
  obtain ⟨hstorable, rfl⟩ := Settings.toToml_eq_ok_iff.1 htext
  rw [Disk.Succeeds, loadSettings_of_read hread, Settings.load,
    Settings.ofToml_render hstorable hheld hfits, Except.map, hsilent.override]
  rfl

/-- Nothing is loaded of saved settings with a template that does not fit. -/
theorem fails_of_not_fits (hheld : s.Held)
    (h : Disk.Succeeds (saveSettings Disk.ofTree s path) t () u) (hdeep : ¬ s.Fits) :
    ∃ trouble, (loadSettings Disk.ofTree e path).run.run u = (.error trouble, u) := by
  obtain ⟨text, htext, hread⟩ := read_of_saveSettings h
  obtain ⟨hstorable, rfl⟩ := Settings.toToml_eq_ok_iff.1 htext
  have hload := loadSettings_of_read (e := e) hread
  rw [Settings.load, Settings.ofToml_render_of_not_fits hstorable hheld hdeep] at hload
  exact ⟨_, hload⟩

/-! ### Settings in an empty directory -/

/-- An environment without variables. -/
def silent : Environment := ⟨none, none, none, none⟩

/-- Without variables nothing is overridden. -/
theorem silent_silent : silent.Silent := ⟨rfl, rfl, rfl⟩

/-- Settings that can be stored are saved in an empty directory. -/
theorem saves_empty (h : s.toJson.Storable) :
    Disk.Succeeds (saveSettings Disk.ofTree s "config.toml") .empty ()
      (FileTree.empty.put ["config.toml"] (.file (Toml.render s.members))) := by
  have htoml : s.toToml = .ok (Toml.render s.members) := Settings.toToml_eq_ok_iff.2 ⟨h, rfl⟩
  rw [saveSettings]
  simp only [Disk.succeeds_bind_iff, Disk.succeeds_step_iff, Disk.succeeds_result_iff,
    orTrouble_eq_ok_iff, ofIo_eq_ok_iff]
  exact ⟨_, _, ⟨htoml, rfl⟩, .ok (), .empty, rfl, (), _, ⟨rfl, rfl⟩, .ok (), _, rfl, rfl, rfl⟩

/-- So many tables inside each other, and an empty one in the last. -/
def tower : Nat → Json
  | 0 => .object []
  | n + 1 => .object [("a", tower n)]

/-- Towers can be stored, however high. -/
theorem storable_tower (n : Nat) : (tower n).Storable := by
  induction n with
  | zero => rfl
  | succ n ih => simp [tower, ih]

/-- Towers are held: each of their tables has one member at most. -/
theorem held_tower (n : Nat) : (tower n).Held := by
  induction n with
  | zero => simp [tower, Json.Held, Json.MembersHeld]
  | succ n ih => simp [tower, Json.Held, Json.MembersHeld, ih]

/-- Each table of a tower has a header with one part more than the one around it. -/
theorem memberFits_tower {parts n : Nat} :
    MemberFits parts (tower n).stored ↔ parts + 1 + n ≤ depthLimit - 1 := by
  induction n generalizing parts with
  | zero =>
      have hstored : (tower 0).stored = .table [] := rfl
      simp [hstored]
  | succ n ih =>
      rw [tower, Json.stored_object (by simp [storable_tower])]
      simp [ih]
      omega

/-- Settings with a temperature where every tool takes a tower. -/
def towering (temperature : Option Single) (n : Nat) : Settings :=
  let t : Tool := ⟨"browser_run", tower n⟩
  { Settings.default.withTemperature temperature with
    automation := { AutomationSettings.default with tools := ⟨t, t, t, t, t, t, t, t, t⟩ } }

/-- Settings with towers can be stored, however high these are. -/
theorem storable_towering (temperature : Option Single) (n : Nat) :
    (towering temperature n).toJson.Storable := by
  refine Settings.storable_iff.2 ⟨by cases temperature <;> rfl, rfl, ?_, rfl⟩
  refine AutomationSettings.storable_iff.2
    ⟨by simp [towering, AutomationSettings.default], by simp [towering, AutomationSettings.default],
      Toolbox.storable_iff.2 ?_⟩
  simp [towering, Toolbox.tools, storable_tower]

/-- The templates of settings with towers are held. -/
theorem held_towering (temperature : Option Single) (n : Nat) : (towering temperature n).Held := by
  simp [Settings.Held, towering, Toolbox.tools, held_tower]

/-- Towers of up to 75 tables fit. -/
theorem fits_towering {temperature : Option Single} {n : Nat} :
    (towering temperature n).Fits ↔ n ≤ 75 := by
  simp [Settings.Fits, towering, Toolbox.tools, Tool.Fits, memberFits_tower, depthLimit]
  omega

/-- The temperature in the settings as a value. -/
def temperature? (v : Json) : Option Json :=
  (v.member? "gemini").bind (·.member? "temperature")

/-- The canonical form of settings has their temperature in it exactly if they have one. -/
theorem temperature?_canonical (s : Settings) : temperature? s.toJson.canonical =
    s.gemini.temperature.map fun x => (Json.number (.single x)).canonical := by
  have hgemini : s.toJson.canonical.member? "gemini" = some s.gemini.toJson.canonical := by
    change (Json.canonicalMembers [] _).lookup "gemini" = _
    rw [Json.lookup_canonicalMembers]
    rfl
  rw [temperature?, hgemini, Option.bind_some]
  change (Json.canonicalMembers [] _).lookup "temperature" = _
  rw [Json.lookup_canonicalMembers]
  obtain ⟨⟨endpoint, model, apiKey, timeoutSecs, temperature⟩, -⟩ := s
  cases apiKey <;> cases temperature <;> rfl

/-! ### Loading what was saved -/

/-- **Saved settings are loaded again.** Where nothing is overridden and every template fits, they
are loaded as they were saved but for the temperature; if they have one, all of them are the same
value in JSON. Settings with a template that does not fit are saved, but not loaded. -/
theorem saved_loads (hsilent : e.Silent) (hheld : s.Held)
    (h : Disk.Succeeds (saveSettings Disk.ofTree s path) t () u) :
    (s.Fits → ∃ temperature,
      Disk.Succeeds (loadSettings Disk.ofTree e path) u (s.withTemperature temperature) u ∧
        (s.gemini.temperature.isSome = true →
          (s.withTemperature temperature).toJson.canonical = s.toJson.canonical)) ∧
    (¬ s.Fits → ∃ trouble,
      (loadSettings Disk.ofTree e path).run.run u = (.error trouble, u)) := by
  refine ⟨fun hfits => ?_, fails_of_not_fits hheld h⟩
  refine ⟨s.gemini.returned.temperature, loads_of_fits hsilent hheld h hfits,
    fun htemperature => ?_⟩
  have hsame := GeminiSettings.canonical_returned htemperature
  refine Json.canonical_object_congr ?_
  change ("gemini", s.gemini.returned.toJson.canonical) :: _ = _
  rw [hsame]
  rfl

/-- A tower of 75 tables is loaded again, one of 76 is not. -/
theorem towering_saved_loads :
    (∃ u temperature,
      Disk.Succeeds (saveSettings Disk.ofTree (towering (some (.zero false)) 75) "config.toml")
        .empty () u ∧
      Disk.Succeeds (loadSettings Disk.ofTree silent "config.toml") u
        ((towering (some (.zero false)) 75).withTemperature temperature) u ∧
      ((towering (some (.zero false)) 75).withTemperature temperature).toJson.canonical =
        (towering (some (.zero false)) 75).toJson.canonical) ∧
    ∃ u trouble,
      Disk.Succeeds (saveSettings Disk.ofTree (towering (some (.zero false)) 76) "config.toml")
        .empty () u ∧
      (loadSettings Disk.ofTree silent "config.toml").run.run u = (.error trouble, u) := by
  have hsaved (n : Nat) := saves_empty (storable_towering (some (.zero false)) n)
  have hloads (n : Nat) :=
    saved_loads silent_silent (held_towering (some (.zero false)) n) (hsaved n)
  obtain ⟨temperature, hload, hsame⟩ := (hloads 75).1 (fits_towering.2 (by decide))
  obtain ⟨trouble, hfails⟩ := (hloads 76).2 (mt fits_towering.1 (by decide))
  exact ⟨⟨_, temperature, hsaved 75, hload, hsame rfl⟩, _, trouble, hsaved 76, hfails⟩

/-- **Not all saved settings are loaded again.** A tower of 76 tables is saved, but nothing is
loaded; and where there is no temperature the settings are loaded with one. -/
theorem towering_lost :
    (∃ u, Disk.Succeeds (saveSettings Disk.ofTree (towering (some (.zero false)) 76) "config.toml")
        .empty () u ∧
      ∀ s v, ¬ Disk.Succeeds (loadSettings Disk.ofTree silent "config.toml") u s v) ∧
    ∃ u s, Disk.Succeeds (saveSettings Disk.ofTree (towering none 0) "config.toml") .empty () u ∧
      Disk.Succeeds (loadSettings Disk.ofTree silent "config.toml") u s u ∧
      s.toJson.canonical ≠ (towering none 0).toJson.canonical := by
  refine ⟨⟨_, saves_empty (storable_towering _ 76), fun s v hload => ?_⟩, ?_⟩
  · obtain ⟨trouble, hfails⟩ := fails_of_not_fits (e := silent)
      (held_towering (some (.zero false)) 76) (saves_empty (storable_towering _ 76))
      (mt fits_towering.1 (by decide))
    rw [Disk.Succeeds, hfails] at hload
    cases hload
  · have hsaved := saves_empty (storable_towering none 0)
    refine ⟨_, _, hsaved, loads_of_fits silent_silent (held_towering none 0) hsaved
      (fits_towering.2 (by decide)), fun hsame => ?_⟩
    have htemperature := congrArg temperature? hsame
    rw [temperature?_canonical, temperature?_canonical] at htemperature
    cases htemperature

end Command

end Scenarist
