import Mathlib.Data.List.Dedup
import Scenarist.Proofs.Files.Course
import Scenarist.Proofs.Spec.FileName
import Scenarist.Run.Bundle

/-!
# What Is Left of the Spec Files of a Run

All spec files of a run carry one stamp, and their names keep of a scenario only the letters and
digits of its name. So scenarios whose names differ in nothing else, **namesakes**, share a file,
and what a directory holds in the end is the source of the last of them, whatever their ids.

The argument has three layers. A pass over the files of one directory leaves at each of their
paths the last file of that name (`writeFiles_stands`). A pass changes no other place
(`writeFiles_lookup_of_ne`), and neither snapshots nor new directories come in the way of a spec
file, so what stands in one directory still `Stands` after another one was written
(`writeInto_stands_of_stands`): if the two share places, then they share names, and the second
pass ends as the first one did. A run over directories follows by induction.

## Main results

* `persist_stands`: after a run was written, its files stand in every directory.
* `retained_of_stands`: what that means for its scenarios.
* `retained_of_succeeds`: **a source is lost exactly if a later namesake has another one**, and
  there are as many files as there are different names.
-/

namespace Scenarist.Bundle

open FileTree Disk

variable {t u v : FileTree} {dir : String} {files : List SpecFile} {f : SpecFile}

/-! ### Spec files at their paths -/

/-- The last of the files with a name, the one that is written last. -/
def lastNamed (files : List SpecFile) (name : String) : Option SpecFile :=
  files.reverse.find? fun f => f.fileName == name

/-- The file has the name of a single entry that is not the name of a snapshot. -/
structure Proper (f : SpecFile) : Prop where
  slash : '/' ∉ f.fileName.toList
  isName : IsName f.fileName
  ne_json : ∀ z, f.fileName ≠ z ++ ".json"

/-- At the path of each file in the directory there **stands** the last file of its name. -/
def Stands (files : List SpecFile) (dir : String) (t : FileTree) : Prop :=
  ∀ f ∈ files, ∃ g, lastNamed files f.fileName = some g ∧
    t.read (Path.join dir f.fileName) = .ok g.source

/-- The file of a scenario has a proper name. -/
theorem proper_ofScenario (o : SpecOptions) (stamp : Instant) (s : Scenario) :
    Proper (.ofScenario o stamp s) where
  slash := Spec.slash_not_mem_fileName s stamp o.language
  isName := Spec.fileName_isName s stamp o.language
  ne_json := Spec.fileName_ne_append_json s stamp o.language

/-- The last file of a name is the last one among the rest, if there is one. -/
theorem lastNamed_cons_of_some {name : String} {g : SpecFile} (h : lastNamed files name = some g) :
    lastNamed (f :: files) name = some g := by
  rw [lastNamed] at h ⊢
  rw [List.reverse_cons, List.find?_append, h, Option.some_or]

/-- A file is the last one of its name if none after it has this name. -/
theorem lastNamed_cons_self (h : ∀ g ∈ files, g.fileName ≠ f.fileName) :
    lastNamed (f :: files) f.fileName = some f := by
  have hnone : files.reverse.find? (fun g => g.fileName == f.fileName) = none := by
    rw [List.find?_eq_none]
    intro g hg
    simpa using h g (List.mem_reverse.1 hg)
  rw [lastNamed, List.reverse_cons, List.find?_append, hnone, Option.none_or]
  simp

/-! ### A pass over the files of a directory -/

/-- A file is written exactly if the tree takes it, and its path is told. -/
theorem writeFile_succeeds_iff {path content p : String} :
    Succeeds (writeFile ofTree path content) t p u ↔
      t.write path content = .ok u ∧ p = path := by
  refine succeeds_changing_iff.trans ?_
  simp only [succeeds_pure_iff]
  constructor
  · rintro ⟨v, hv, rfl, rfl⟩
    exact ⟨hv, rfl⟩
  · rintro ⟨hv, rfl⟩
    exact ⟨u, hv, rfl, rfl⟩

/-- A pass that succeeds has written its first file, and then the others. -/
theorem writeFiles_cons {paths : List String}
    (h : Succeeds (writeFiles ofTree dir (f :: files)) t paths u) :
    ∃ v rest, t.write (Path.join dir f.fileName) f.source = .ok v ∧
      Succeeds (writeFiles ofTree dir files) v rest u := by
  obtain ⟨_, v, rest, hfirst, hrest, -⟩ := succeeds_mapM_cons_iff.1 h
  exact ⟨v, rest, (writeFile_succeeds_iff.1 hfirst).1, hrest⟩

/-- Writing no files changes nothing. -/
theorem writeFiles_nil {paths : List String}
    (h : Succeeds (writeFiles ofTree dir []) t paths u) : u = t := by
  rw [writeFiles, List.mapM_nil] at h
  exact (succeeds_pure_iff.1 h).2

/-- A file that was written stands at a place that was no directory. -/
theorem write_keeps {path content : String} (h : t.write path content = .ok u) : Keeps t u := by
  obtain ⟨p, -, -, hp, rfl⟩ := write_eq_ok h
  exact put_keeps hp

/-- Writing files keeps the directories. -/
theorem writeFiles_keeps {paths : List String}
    (h : Succeeds (writeFiles ofTree dir files) t paths u) : Keeps t u := by
  induction files generalizing t paths with
  | nil => exact writeFiles_nil h ▸ fun _ hp => hp
  | cons f files ih =>
      obtain ⟨v, rest, hv, hrest⟩ := writeFiles_cons h
      exact (write_keeps hv).trans (ih hrest)

/-- **A pass changes no place but those of its files.** -/
theorem writeFiles_lookup_of_ne {paths : List String} {q : Place}
    (h : Succeeds (writeFiles ofTree dir files) t paths u)
    (hq : ∀ f ∈ files, u.place (Path.join dir f.fileName) ≠ .ok q) : u.lookup q = t.lookup q := by
  induction files generalizing t paths with
  | nil => rw [writeFiles_nil h]
  | cons f files ih =>
      obtain ⟨v, rest, hv, hrest⟩ := writeFiles_cons h
      obtain ⟨p, hp, -, hd, rfl⟩ := write_eq_ok hv
      have hplace : u.place (Path.join dir f.fileName) = .ok p :=
        place_of_keeps ((put_keeps hd).trans (writeFiles_keeps hrest)) hp
      have hne : q ≠ p := by
        rintro rfl
        exact hq f List.mem_cons_self hplace
      rw [ih hrest fun g hg => hq g (List.mem_cons_of_mem f hg), lookup_put_of_ne t _ hne]

/-- The place of a proper file ends with its name. -/
theorem Proper.place_eq (hf : Proper f) {p : Place}
    (h : t.place (Path.join dir f.fileName) = .ok p) : p.getLast? = some f.fileName := by
  obtain ⟨here, -, rfl⟩ := place_join_eq_ok hf.slash hf.isName h
  exact List.getLast?_concat

/-- **After a pass, the last file of each name stands at its path.** -/
theorem writeFiles_stands {paths : List String} (hfiles : ∀ f ∈ files, Proper f)
    (h : Succeeds (writeFiles ofTree dir files) t paths u) : Stands files dir u := by
  induction files generalizing t paths with
  | nil => simp [Stands]
  | cons f files ih =>
      obtain ⟨v, rest, hv, hrest⟩ := writeFiles_cons h
      have hstands : Stands files dir u :=
        ih (fun g hg => hfiles g (List.mem_cons_of_mem f hg)) hrest
      intro g hg
      by_cases hsame : ∃ g' ∈ files, g'.fileName = g.fileName
      · obtain ⟨g', hg', hname⟩ := hsame
        obtain ⟨r, hr, hread⟩ := hstands g' hg'
        rw [hname] at hr hread
        exact ⟨r, lastNamed_cons_of_some hr, hread⟩
      · have hfresh : ∀ g' ∈ files, g'.fileName ≠ g.fileName :=
          fun g' hg' hname => hsame ⟨g', hg', hname⟩
        obtain rfl : g = f := by
          rcases List.mem_cons.1 hg with hgf | hg
          · exact hgf
          · exact absurd rfl (hfresh g hg)
        obtain ⟨p, hp, hroot, hd, rfl⟩ := write_eq_ok hv
        have hplace : u.place (Path.join dir g.fileName) = .ok p :=
          place_of_keeps ((put_keeps hd).trans (writeFiles_keeps hrest)) hp
        -- the other files have other names, so they are written elsewhere
        have hother : ∀ g' ∈ files, u.place (Path.join dir g'.fileName) ≠ .ok p := by
          intro g' hg' hp'
          have hlast := (hfiles g' (List.mem_cons_of_mem g hg')).place_eq hp'
          rw [(hfiles g List.mem_cons_self).place_eq hplace] at hlast
          exact hfresh g' hg' (Option.some.inj hlast).symm
        refine ⟨g, lastNamed_cons_self hfresh, read_eq_ok_iff.2 ⟨p, hplace, ?_⟩⟩
        rw [writeFiles_lookup_of_ne hrest hother, lookup_put t p _ hroot]

/-! ### What stands stays -/

/-- What stands in a directory stays as long as directories and the files at its places do. -/
theorem Stands.of_lookup (hs : Stands files dir t) (hk : Keeps t u)
    (hfile : ∀ f ∈ files, ∀ p c, t.place (Path.join dir f.fileName) = .ok p →
      t.lookup p = some (.file c) → u.lookup p = some (.file c)) : Stands files dir u := by
  intro f hf
  obtain ⟨g, hg, hread⟩ := hs f hf
  obtain ⟨p, hp, hfound⟩ := read_eq_ok_iff.1 hread
  exact ⟨g, hg, read_eq_ok_iff.2 ⟨p, place_of_keeps hk hp, hfile f hf p _ hp hfound⟩⟩

/-- What stands still stands when directories were made. -/
theorem makeDirectories_stands {path : String} (h : t.makeDirectories path = .ok u)
    (hs : Stands files dir t) : Stands files dir u :=
  hs.of_lookup (fun _ hp => makeDirectories_lookup h hp)
    fun _ _ _ _ _ hfound => makeDirectories_lookup h hfound

/-- A text that ends in `.json` is the name of an entry. -/
theorem isName_append_json (z : String) : IsName (z ++ ".json") := by
  have hmem : 'j' ∈ (z ++ ".json").toList := by simp
  exact isName_of_mem hmem (by decide)

/-- The path of a snapshot ends in `.json`. -/
theorem exists_join_snapshot (dir : String) (x : Snapshot) :
    ∃ s, Path.join dir x.fileName = s ++ ".json" := by
  have hhead : ¬ x.fileName.toList.head? = some '/' := by simp [Snapshot.fileName]
  simp only [Path.join, hhead, decide_false, Bool.false_or]
  split
  · exact ⟨_, rfl⟩
  · split
    · exact ⟨dir ++ ("scenarios_" ++ x.runId), (String.append_assoc ..).symm⟩
    · exact ⟨dir ++ "/" ++ ("scenarios_" ++ x.runId), (String.append_assoc ..).symm⟩

/-- **A snapshot is never written in the place of a spec file**, whatever its run is called. -/
theorem writeSnapshot_stands {dir' p' : String} {x : Snapshot} (hfiles : ∀ f ∈ files, Proper f)
    (h : Succeeds (writeSnapshot ofTree dir' x) t p' u) (hs : Stands files dir t) :
    Stands files dir u := by
  obtain ⟨s, hjoin⟩ := exists_join_snapshot dir' x
  have hwrite := (writeFile_succeeds_iff.1 h).1
  rw [hjoin] at hwrite
  obtain ⟨q, hq, -, hd, rfl⟩ := write_eq_ok hwrite
  obtain ⟨here, z, rfl⟩ := place_append_eq_ok (by decide) isName_append_json hq
  refine hs.of_lookup (put_keeps hd) fun f hf p c hp hfound => ?_
  have hne : p ≠ here ++ [z ++ ".json"] := by
    rintro rfl
    have hlast := (hfiles f hf).place_eq hp
    rw [List.getLast?_concat] at hlast
    exact (hfiles f hf).ne_json z (Option.some.inj hlast).symm
  rw [lookup_put_of_ne t _ hne, hfound]

/-- **A pass over one directory leaves what stands in another one.** Where the two share a place
they share its name, and the pass ends with the same file there. -/
theorem writeFiles_stands_of_stands {dir' : String} {paths : List String}
    (hfiles : ∀ f ∈ files, Proper f) (h : Succeeds (writeFiles ofTree dir' files) t paths u)
    (hs : Stands files dir t) : Stands files dir u := by
  intro f hf
  obtain ⟨g, hg, hread⟩ := hs f hf
  obtain ⟨p, hp, hfound⟩ := read_eq_ok_iff.1 hread
  have hplace := place_of_keeps (writeFiles_keeps h) hp
  refine ⟨g, hg, read_eq_ok_iff.2 ⟨p, hplace, ?_⟩⟩
  by_cases hover : ∃ f' ∈ files, u.place (Path.join dir' f'.fileName) = .ok p
  · obtain ⟨f', hf', hp'⟩ := hover
    have hname : f'.fileName = f.fileName := by
      have hlast := (hfiles f' hf').place_eq hp'
      rw [(hfiles f hf).place_eq hplace] at hlast
      exact (Option.some.inj hlast).symm
    obtain ⟨g', hg', hread'⟩ := writeFiles_stands hfiles h f' hf'
    obtain ⟨q, hq, hfound'⟩ := read_eq_ok_iff.1 hread'
    rw [hp'] at hq
    obtain rfl : p = q := Except.ok.inj hq
    rw [hname, hg] at hg'
    obtain rfl : g = g' := Option.some.inj hg'
    exact hfound'
  · rw [writeFiles_lookup_of_ne h fun f' hf' hp' => hover ⟨f', hf', hp'⟩, hfound]

/-! ### A run -/

/-- What writing a run into a directory does: the directory, the two snapshots, the files. -/
theorem writeInto_succeeds {out : RunOutput} {paths : List String}
    (h : Succeeds (writeInto ofTree out dir) t paths u) :
    ∃ t₁ t₂ t₃ p q rest, t.makeDirectories dir = .ok t₁ ∧
      Succeeds (writeSnapshot ofTree dir out.before) t₁ p t₂ ∧
      Succeeds (writeSnapshot ofTree dir out.after) t₂ q t₃ ∧
      Succeeds (writeFiles ofTree dir out.files) t₃ rest u := by
  obtain ⟨t₁, hmade, h⟩ := succeeds_changing_iff.1 h
  obtain ⟨p, t₂, hbefore, h⟩ := succeeds_bind_iff.1 h
  obtain ⟨q, t₃, hafter, h⟩ := succeeds_bind_iff.1 h
  obtain ⟨rest, w, hwritten, h⟩ := succeeds_bind_iff.1 h
  obtain ⟨-, rfl⟩ := succeeds_pure_iff.1 h
  exact ⟨t₁, t₂, t₃, p, q, rest, hmade, hbefore, hafter, hwritten⟩

/-- **What is written of a run stands**: the snapshots take no place of a file. -/
theorem writeInto_stands {out : RunOutput} {paths : List String}
    (hfiles : ∀ f ∈ out.files, Proper f) (h : Succeeds (writeInto ofTree out dir) t paths u) :
    Stands out.files dir u := by
  obtain ⟨_, _, _, _, _, _, -, -, -, hwritten⟩ := writeInto_succeeds h
  exact writeFiles_stands hfiles hwritten

/-- Writing a run into one directory leaves what stands in another one. -/
theorem writeInto_stands_of_stands {out : RunOutput} {dir' : String} {paths : List String}
    (hfiles : ∀ f ∈ out.files, Proper f) (h : Succeeds (writeInto ofTree out dir') t paths u)
    (hs : Stands out.files dir t) : Stands out.files dir u := by
  obtain ⟨_, _, _, _, _, _, hmade, hbefore, hafter, hwritten⟩ := writeInto_succeeds h
  have hs₁ := makeDirectories_stands hmade hs
  have hs₂ := writeSnapshot_stands hfiles hbefore hs₁
  have hs₃ := writeSnapshot_stands hfiles hafter hs₂
  exact writeFiles_stands_of_stands hfiles hwritten hs₃

/-- What stands before a run is written into directories stands afterwards. -/
theorem writeInto_all_stands_of_stands {out : RunOutput} {dirs : List String}
    {written : List (List String)} (hfiles : ∀ f ∈ out.files, Proper f)
    (h : Succeeds (dirs.mapM (writeInto ofTree out)) t written u)
    (hs : Stands out.files dir t) : Stands out.files dir u := by
  induction dirs generalizing t written with
  | nil =>
      rw [List.mapM_nil] at h
      obtain ⟨-, rfl⟩ := succeeds_pure_iff.1 h
      exact hs
  | cons first rest ih =>
      obtain ⟨_, v, _, hfirst, hrest, -⟩ := succeeds_mapM_cons_iff.1 h
      exact ih hrest (writeInto_stands_of_stands hfiles hfirst hs)

/-- **After a run was written, its files stand in every directory.** -/
theorem persist_stands {out : RunOutput} {dirs paths : List String}
    (hfiles : ∀ f ∈ out.files, Proper f) (h : Succeeds (persist ofTree out dirs) t paths u)
    (hdir : dir ∈ dirs) : Stands out.files dir u := by
  obtain ⟨written, w, hall, hpure⟩ := succeeds_bind_iff.1 h
  obtain ⟨-, rfl⟩ := succeeds_pure_iff.1 hpure
  clear h hpure
  induction dirs generalizing t written with
  | nil => simp at hdir
  | cons first rest ih =>
      obtain ⟨_, v, written', hfirst, hrest, -⟩ := succeeds_mapM_cons_iff.1 hall
      rcases List.mem_cons.1 hdir with rfl | hdir
      · exact writeInto_all_stands_of_stands hfiles hrest (writeInto_stands hfiles hfirst)
      · exact ih hdir written' hrest

/-! ### The scenarios of a run -/

variable {scenarios : List Scenario} {o : SpecOptions} {stamp : Instant}

/-- The scenarios have names that differ in nothing but case and characters that are no letters
or digits. -/
def Namesakes (r s : Scenario) : Prop := Spec.sanitizeName r.name = Spec.sanitizeName s.name

instance (r s : Scenario) : Decidable (Namesakes r s) := inferInstanceAs (Decidable (_ = _))

/-- The last of the namesakes of a scenario. -/
def lastNamesake (scenarios : List Scenario) (s : Scenario) : Option Scenario :=
  scenarios.reverse.find? fun r => Spec.sanitizeName r.name == Spec.sanitizeName s.name

/-- The path of the spec file of a scenario in a directory. -/
def specPath (dir : String) (o : SpecOptions) (stamp : Instant) (s : Scenario) : String :=
  Path.join dir (Spec.fileName s stamp o.language)

/-- The different places at which the spec files of scenarios are in a directory. -/
def specPlaces (t : FileTree) (dir : String) (o : SpecOptions) (stamp : Instant)
    (scenarios : List Scenario) : List (Except FileError Place) :=
  (scenarios.map fun s => t.place (specPath dir o stamp s)).dedup

/-- What is left of the sources of scenarios in a directory. -/
structure Retained (scenarios : List Scenario) (o : SpecOptions) (stamp : Instant) (dir : String)
    (t : FileTree) : Prop where
  /-- The file of a scenario holds the source of the last of its namesakes. -/
  read_eq : ∀ s ∈ scenarios, ∃ r, lastNamesake scenarios s = some r ∧
    t.read (specPath dir o stamp s) = .ok (Spec.compile o r)
  /-- Every source is there exactly if namesakes have one source. -/
  forall_read_iff :
    (∀ s ∈ scenarios, t.read (specPath dir o stamp s) = .ok (Spec.compile o s)) ↔
      ∀ r ∈ scenarios, ∀ s ∈ scenarios, Namesakes r s → Spec.compile o r = Spec.compile o s
  /-- There are as many files as there are different names. -/
  length_places : (specPlaces t dir o stamp scenarios).length =
    (scenarios.map fun s => Spec.sanitizeName s.name).dedup.length
  /-- There is a file for each scenario exactly if there are no namesakes. -/
  length_places_iff : (specPlaces t dir o stamp scenarios).length = scenarios.length ↔
    (scenarios.map fun s => Spec.sanitizeName s.name).Nodup

/-- The files of scenarios are proper. -/
theorem proper_of_mem_ofScenarios (hf : f ∈ SpecFile.ofScenarios scenarios o stamp) : Proper f := by
  obtain ⟨s, -, rfl⟩ := List.mem_map.1 hf
  exact proper_ofScenario o stamp s

/-- The last file of the name of a scenario is the file of the last of its namesakes. -/
theorem lastNamed_ofScenarios (s : Scenario) :
    lastNamed (SpecFile.ofScenarios scenarios o stamp) (Spec.fileName s stamp o.language) =
      (lastNamesake scenarios s).map (.ofScenario o stamp) := by
  have hsame : (fun f => f.fileName == Spec.fileName s stamp o.language) ∘
      SpecFile.ofScenario o stamp =
        fun r => Spec.sanitizeName r.name == Spec.sanitizeName s.name := by
    funext r
    simp only [Function.comp_apply, SpecFile.ofScenario, Bool.beq_eq_decide_eq,
      Spec.fileName_eq_iff]
  rw [lastNamed, lastNamesake, SpecFile.ofScenarios, ← List.map_reverse, List.find?_map, hsame]

/-- The file of a scenario holds the source of the last of its namesakes. -/
theorem Stands.read_eq (h : Stands (SpecFile.ofScenarios scenarios o stamp) dir t) {s : Scenario}
    (hs : s ∈ scenarios) : ∃ r, lastNamesake scenarios s = some r ∧
      t.read (specPath dir o stamp s) = .ok (Spec.compile o r) := by
  obtain ⟨g, hg, hread⟩ := h (.ofScenario o stamp s) (List.mem_map_of_mem hs)
  change lastNamed _ (Spec.fileName s stamp o.language) = _ at hg
  rw [lastNamed_ofScenarios] at hg
  obtain ⟨r, hr, rfl⟩ := Option.map_eq_some_iff.1 hg
  exact ⟨r, hr, hread⟩

/-- The last namesake is one of the scenarios. -/
theorem mem_of_lastNamesake {r s : Scenario} (h : lastNamesake scenarios s = some r) :
    r ∈ scenarios ∧ Namesakes r s := by
  have hname := List.find?_some h
  exact ⟨List.mem_reverse.1 (List.mem_of_find?_eq_some h), by simpa [Namesakes] using hname⟩

/-- Namesakes have the same last namesake. -/
theorem lastNamesake_congr {r s : Scenario} (h : Namesakes r s) :
    lastNamesake scenarios r = lastNamesake scenarios s := by
  rw [Namesakes] at h
  simp only [lastNamesake]
  rw [h]

/-- The file of a scenario is where the directory is, under its name. -/
theorem Stands.place_eq (h : Stands (SpecFile.ofScenarios scenarios o stamp) dir t) {s : Scenario}
    (hs : s ∈ scenarios) : ∃ here, t.follow [] (partsBelow dir) = .ok here ∧
      t.place (specPath dir o stamp s) =
        .ok (here ++ [Spec.sanitizeName s.name ++ Spec.fileEnding stamp o.language]) := by
  obtain ⟨r, -, hread⟩ := h.read_eq hs
  obtain ⟨p, hp, -⟩ := read_eq_ok_iff.1 hread
  obtain ⟨here, hhere, rfl⟩ := place_join_eq_ok (Spec.slash_not_mem_fileName s stamp o.language)
    (Spec.fileName_isName s stamp o.language) hp
  refine ⟨here, hhere, ?_⟩
  rw [hp, Spec.fileName_eq_append]

/-- The places of the spec files in a directory are told apart by the names alone. -/
theorem Stands.places_eq (h : Stands (SpecFile.ofScenarios scenarios o stamp) dir t) :
    ∃ here, (scenarios.map fun s => t.place (specPath dir o stamp s)) =
      (scenarios.map fun s => Spec.sanitizeName s.name).map fun name =>
        .ok (here ++ [name ++ Spec.fileEnding stamp o.language]) := by
  cases scenarios with
  | nil => exact ⟨[], rfl⟩
  | cons first rest =>
      obtain ⟨here, hhere, -⟩ := h.place_eq List.mem_cons_self
      refine ⟨here, ?_⟩
      rw [List.map_map]
      refine List.map_congr_left fun s hs => ?_
      obtain ⟨here', hhere', hplace⟩ := h.place_eq hs
      rw [hhere] at hhere'
      obtain rfl : here = here' := Except.ok.inj hhere'
      exact hplace

/-- There are as many files as different names. -/
theorem Stands.length_places (h : Stands (SpecFile.ofScenarios scenarios o stamp) dir t) :
    (specPlaces t dir o stamp scenarios).length =
      (scenarios.map fun s => Spec.sanitizeName s.name).dedup.length := by
  obtain ⟨here, hplaces⟩ := h.places_eq
  have hinj : Function.Injective fun name : String =>
      (.ok (here ++ [name ++ Spec.fileEnding stamp o.language]) : Except FileError Place) := by
    intro a b hab
    have hlast : a ++ Spec.fileEnding stamp o.language = b ++ Spec.fileEnding stamp o.language :=
      List.singleton_inj.1 (List.append_cancel_left (Except.ok.inj hab))
    exact (String.append_left_inj _).1 hlast
  rw [specPlaces, hplaces, List.dedup_map_of_injective hinj, List.length_map]

/-- **What it means for scenarios that their files stand in a directory.** -/
theorem retained_of_stands (h : Stands (SpecFile.ofScenarios scenarios o stamp) dir t) :
    Retained scenarios o stamp dir t where
  read_eq _ hs := h.read_eq hs
  forall_read_iff := by
    constructor
    · intro hall r hr s hs hname
      obtain ⟨l, hl, hread⟩ := h.read_eq hr
      obtain ⟨l', hl', hread'⟩ := h.read_eq hs
      rw [lastNamesake_congr hname, hl'] at hl
      obtain rfl : l' = l := Option.some.inj hl
      rw [hall r hr] at hread
      rw [hall s hs] at hread'
      exact (Except.ok.inj hread).trans (Except.ok.inj hread').symm
    · intro hsame s hs
      obtain ⟨r, hr, hread⟩ := h.read_eq hs
      obtain ⟨hmem, hname⟩ := mem_of_lastNamesake hr
      rw [hread, hsame r hmem s hs hname]
  length_places := h.length_places
  length_places_iff := by
    rw [h.length_places, ← List.length_map (f := fun s : Scenario => Spec.sanitizeName s.name)]
    constructor
    · intro hlength
      exact List.dedup_eq_self.1 ((List.dedup_sublist _).eq_of_length hlength)
    · intro hnodup
      rw [List.dedup_eq_self.2 hnodup]

/-- **What is left of the spec files of a run**, whatever the scenarios and their ids: in every
directory to which the run was written, or into which its files were, the file of a scenario
holds the source of the last of its namesakes. So every source is there exactly if namesakes
have one source, and there is a file for each scenario exactly if there are no namesakes. -/
theorem retained_of_succeeds (scenarios : List Scenario) (o : SpecOptions) (stamp : Instant) :
    (∀ (out : RunOutput) (dirs paths : List String) (t u : FileTree),
      out.files = SpecFile.ofScenarios scenarios o stamp →
      Succeeds (persist ofTree out dirs) t paths u →
      ∀ dir ∈ dirs, Retained scenarios o stamp dir u) ∧
    (∀ (dir : String) (paths : List String) (t u : FileTree),
      Succeeds (writeFiles ofTree dir (SpecFile.ofScenarios scenarios o stamp)) t paths u →
      Retained scenarios o stamp dir u) := by
  have hproper : ∀ f ∈ SpecFile.ofScenarios scenarios o stamp, Proper f :=
    fun _ hf => proper_of_mem_ofScenarios hf
  constructor
  · intro out dirs paths t u hfiles h dir hdir
    have hstands : Stands out.files dir u := persist_stands (hfiles ▸ hproper) h hdir
    exact retained_of_stands (hfiles ▸ hstands)
  · intro dir paths t u h
    exact retained_of_stands (writeFiles_stands hproper h)

/-- Two scenarios that are told apart by a hyphen, and a third one. -/
def hyphenated : List Scenario := [
  ⟨"s1", "Log in", [⟨.click, "#login", none, ""⟩], .empty, none⟩,
  ⟨"s2", "Log-in", [⟨.click, "#sign-in", none, ""⟩], .empty, none⟩,
  ⟨"s3", "Search", [⟨.fill, "#q", some "tea", ""⟩], .empty, none⟩]

/-- The time at which they are compiled. -/
def hyphenatedStamp : Instant := ⟨19860, 34215, 0⟩

/-- A run with these scenarios. -/
def hyphenatedRun : RunOutput :=
  let metadata := Metadata.start hyphenatedStamp "model" 10
  { runId := "run"
    before := .capture "run" hyphenated (metadata .generationOnly .generated)
    after := .capture "run" hyphenated (metadata .withRepair .compiled)
    files := SpecFile.ofScenarios hyphenated .default hyphenatedStamp
    report := none }

/-- A course that succeeds leaves a tree. -/
theorem exists_succeeds {α : Type} {x : ExceptT Trouble (StateM FileTree) α} {t : FileTree}
    (h : (x.run.run t).1.toOption.isSome = true) : ∃ a u, Succeeds x t a u := by
  rcases hrun : x.run.run t with ⟨_ | a, u⟩
  · rw [hrun] at h
    cases h
  · exact ⟨a, u, hrun⟩

/-- The run is written into two directories, one below the other. All ids are different, but in
both directories there are two files for three scenarios: the first source is lost, and the second
one stands in its place. It is the same when the files are written into one directory. -/
theorem retained_of_succeeds_hyphenated :
    (hyphenated.map (·.id)).Nodup ∧
      (∃ paths u, Succeeds (persist ofTree hyphenatedRun ["out", "out/copy"]) .empty paths u ∧
        ∀ dir ∈ ["out", "out/copy"], Retained hyphenated .default hyphenatedStamp dir u ∧
          (specPlaces u dir .default hyphenatedStamp hyphenated).length = 2 ∧
          ¬ ∀ s ∈ hyphenated, u.read (specPath dir .default hyphenatedStamp s) =
            .ok (Spec.compile .default s)) ∧
      ∃ paths u, Succeeds (writeFiles ofTree "" hyphenatedRun.files) .empty paths u ∧
        Retained hyphenated .default hyphenatedStamp "" u := by
  refine ⟨by decide, ?_, ?_⟩
  · obtain ⟨paths, u, hrun⟩ : ∃ paths u,
        Succeeds (persist ofTree hyphenatedRun ["out", "out/copy"]) .empty paths u :=
      exists_succeeds (by decide +kernel)
    refine ⟨paths, u, hrun, fun dir hdir => ?_⟩
    have hretained : Retained hyphenated .default hyphenatedStamp dir u :=
      (retained_of_succeeds _ _ _).1 hyphenatedRun _ paths .empty u rfl hrun dir hdir
    refine ⟨hretained, ?_, ?_⟩
    · rw [hretained.length_places]
      decide +kernel
    · rw [hretained.forall_read_iff]
      decide +kernel
  · obtain ⟨paths, u, hrun⟩ : ∃ paths u,
        Succeeds (writeFiles ofTree "" hyphenatedRun.files) .empty paths u :=
      exists_succeeds (by decide +kernel)
    exact ⟨paths, u, hrun, (retained_of_succeeds _ _ _).2 "" paths .empty u hrun⟩

end Scenarist.Bundle
