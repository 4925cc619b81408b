import Scenarist.Files.Tree
import Scenarist.Text.Path

/-!
# Where a Path Leads

A path is cut at its slashes, and its parts are followed from directory to directory. What comes
after the last slash of a path is its last part, and if that is a proper name (`IsName`) then the
place ends with it: `place_join_eq_ok` for a path below a directory, `place_append_eq_ok` for a
path of which only the ending is known.

A place can stop being where a path leads only if a directory on the way disappears. None does:
a tree `Keeps` its directories when a file is written (`write_keeps`) and when directories are
made (`makeDirectories_lookup`, which also keeps every file), so a path that leads somewhere
leads there ever after (`place_of_keeps`).

## Main results

* `partsOf_append_slash`: a path is cut at each of its slashes.
* `place_join_eq_ok`: **a name below a directory** leads to the place of the directory, and
  from there to the name.
* `write_eq_ok`: a write puts a file where the path leads, which is not a directory.
* `makeDirectories_lookup`: making directories changes nothing that is there.
-/

namespace Scenarist.FileTree

variable {t u v : FileTree}

/-! ### The parts of a path -/

theorem partsOf_ne_nil (cs : List Char) : partsOf cs ≠ [] := by
  cases cs with
  | nil => simp [partsOf]
  | cons c cs =>
      rw [partsOf]
      split
      · simp
      · split <;> simp

/-- A path that begins with a slash has an empty part first. -/
theorem partsOf_slash (cs : List Char) : partsOf ('/' :: cs) = [] :: partsOf cs := by
  obtain ⟨p, ps, h⟩ := List.exists_cons_of_ne_nil (partsOf_ne_nil cs)
  rw [partsOf, h]
  rfl

/-- Any other character belongs to the first part. -/
theorem partsOf_cons {c : Char} {cs p : List Char} {ps : List (List Char)} (hc : c ≠ '/')
    (h : partsOf cs = p :: ps) : partsOf (c :: cs) = (c :: p) :: ps := by
  simp only [partsOf, h, if_neg hc]

theorem partsOf_of_not_mem {cs : List Char} (h : '/' ∉ cs) : partsOf cs = [cs] := by
  induction cs with
  | nil => rfl
  | cons c cs ih =>
      simp only [List.mem_cons, not_or] at h
      exact partsOf_cons (Ne.symm h.1) (ih h.2)

/-- **A path is cut at each of its slashes.** -/
theorem partsOf_append_slash (xs ys : List Char) :
    partsOf (xs ++ '/' :: ys) = partsOf xs ++ partsOf ys := by
  induction xs with
  | nil => exact partsOf_slash ys
  | cons c xs ih =>
      by_cases hc : c = '/'
      · subst hc
        rw [List.cons_append, partsOf_slash, partsOf_slash, ih, List.cons_append]
      · obtain ⟨p, ps, h⟩ := List.exists_cons_of_ne_nil (partsOf_ne_nil xs)
        rw [h, List.cons_append] at ih
        rw [List.cons_append, partsOf_cons hc ih, partsOf_cons hc h, List.cons_append]

/-- An ending without a slash is the ending of the last part. -/
theorem exists_partsOf_append (xs : List Char) {ys : List Char} (h : '/' ∉ ys) :
    ∃ ps z, partsOf (xs ++ ys) = ps ++ [z ++ ys] := by
  induction xs with
  | nil => exact ⟨[], [], partsOf_of_not_mem h⟩
  | cons c xs ih =>
      obtain ⟨ps, z, hps⟩ := ih
      by_cases hc : c = '/'
      · subst hc
        exact ⟨[] :: ps, z, by rw [List.cons_append, partsOf_slash, hps, List.cons_append]⟩
      · cases ps with
        | nil => exact ⟨[], c :: z, partsOf_cons hc hps⟩
        | cons p ps => exact ⟨(c :: p) :: ps, z, partsOf_cons hc hps⟩

/-- The parts of a path are those between its slashes, after one of its own if it is
absolute. -/
theorem parts_eq (s : String) :
    parts s = (if s.toList.head? = some '/' then ["/"] else []) ++
      (partsOf s.toList).map String.ofList := by
  rw [parts]
  split <;> rfl

/-- The ending of a path, if it has no slash, is the ending of its last part. -/
theorem exists_parts_append (s : String) {ending : String} (h : '/' ∉ ending.toList) :
    ∃ ps z, parts (s ++ ending) = ps ++ [z ++ ending] := by
  obtain ⟨ps, z, hps⟩ := exists_partsOf_append s.toList h
  obtain ⟨front, hparts⟩ :
      ∃ front, parts (s ++ ending) = front ++ (partsOf (s ++ ending).toList).map String.ofList :=
    ⟨_, parts_eq (s ++ ending)⟩
  refine ⟨front ++ ps.map String.ofList, String.ofList z, ?_⟩
  rw [hparts, String.toList_append, hps, List.map_append, List.append_assoc, List.map_singleton,
    String.ofList_append, String.ofList_toList]

theorem parts_of_not_mem {name : String} (h : '/' ∉ name.toList) : parts name = [name] := by
  have hhead : name.toList.head? ≠ some '/' := fun hs => h (List.mem_of_mem_head? hs)
  rw [parts_eq, if_neg hhead, partsOf_of_not_mem h, List.map_singleton, String.ofList_toList,
    List.nil_append]

/-- The parts on the way to whatever is put below a directory. -/
def partsBelow (dir : String) : List String := (parts (Path.join dir "")).dropLast

/-- After a slash, a name without one is a part of its own. -/
theorem parts_append_name {s name : String} (hs : s.toList.getLast? = some '/')
    (h : '/' ∉ name.toList) : parts (s ++ name) = (parts s).dropLast ++ [name] := by
  obtain ⟨xs, hxs⟩ := List.getLast?_eq_some_iff.1 hs
  have hhead : (xs ++ '/' :: name.toList).head? = (xs ++ ['/']).head? := by
    cases xs <;> rfl
  rw [parts_eq, parts_eq, String.toList_append, hxs, List.append_assoc, List.singleton_append,
    hhead, partsOf_append_slash, partsOf_append_slash, partsOf_of_not_mem h]
  simp [partsOf, ← List.append_assoc]

/-- **Below a directory, a name without a slash is a part of its own**, and what comes before it
depends on the directory alone. -/
theorem parts_join (dir : String) {name : String} (h : '/' ∉ name.toList) :
    parts (Path.join dir name) = partsBelow dir ++ [name] := by
  have hhead : ¬ name.toList.head? = some '/' := fun hs => h (List.mem_of_mem_head? hs)
  have hempty : ¬ ("" : String).toList.head? = some '/' := by simp
  simp only [partsBelow, Path.join]
  by_cases hdir : dir.isEmpty
  · simp only [hdir, Bool.or_true, if_true, parts_of_not_mem h]
    rfl
  · simp only [hhead, hempty, hdir, Bool.or_false, decide_false, Bool.false_eq_true, if_false]
    by_cases hlast : dir.toList.getLast? = some '/'
    · rw [if_pos hlast, if_pos hlast, parts_append_name hlast h, String.append_empty]
    · rw [if_neg hlast, if_neg hlast, String.append_empty]
      exact parts_append_name (by simp) h

/-! ### Following the parts -/

/-- A part that is followed to an entry of its own, rather than staying or leading up. -/
def IsName (part : String) : Prop := part ≠ "" ∧ part ≠ "." ∧ part ≠ ".."

theorem isName_of_mem {part : String} {c : Char} (h : c ∈ part.toList) (hc : c ≠ '.') :
    IsName part := by
  refine ⟨?_, ?_, ?_⟩ <;>
  · rintro rfl
    simp [hc] at h

/-- Every directory of `t` is a directory of `u`. -/
def Keeps (t u : FileTree) : Prop :=
  ∀ p, t.lookup p = some .directory → u.lookup p = some .directory

theorem Keeps.trans (h : Keeps t u) (h' : Keeps u v) : Keeps t v := fun p hp => h' p (h p hp)

/-- Parts are followed one after another. -/
theorem follow_append_eq_ok {here p : Place} {xs ys : List String} :
    t.follow here (xs ++ ys) = .ok p ↔
      ∃ q, t.follow here xs = .ok q ∧ t.follow q ys = .ok p := by
  induction xs generalizing here with
  | nil => simp [follow]
  | cons x xs ih =>
      simp only [List.cons_append, follow]
      split
      · simp
      · simp
      · split
        · exact ih
        · split
          · exact ih
          · split
            · simp
            · exact ih

/-- A name is followed in a directory. -/
theorem follow_name_eq_ok {here p : Place} {name : String} (hname : IsName name)
    (h : t.follow here [name] = .ok p) : t.lookup here = some .directory ∧ p = here ++ [name] := by
  obtain ⟨hne, hdot, hdots⟩ := hname
  simp only [follow, hne, hdot, hdots, decide_false, Bool.or_false, Bool.false_eq_true,
    if_false] at h
  split at h
  · simp at h
  · simp at h
  · next hd =>
    split at h
    · simp at h
    · exact ⟨hd, (Except.ok.inj h).symm⟩

/-- A way that leads through directories leads through them as long as they are kept. -/
theorem follow_of_keeps (hk : Keeps t u) {here p : Place} {parts : List String}
    (h : t.follow here parts = .ok p) : u.follow here parts = .ok p := by
  induction parts generalizing here with
  | nil => exact h
  | cons part rest ih =>
      simp only [follow] at h ⊢
      split at h
      · simp at h
      · simp at h
      · next hd =>
        rw [hk here hd]
        dsimp only
        split at h
        · next hstay => rw [if_pos hstay]; exact ih h
        · next hstay =>
          rw [if_neg hstay]
          split at h
          · next hup => rw [if_pos hup]; exact ih h
          · next hup =>
            rw [if_neg hup]
            split at h
            · simp at h
            · next hlong => rw [if_neg hlong]; exact ih h

/-! ### Places -/

/-- **What leads to a place**: the text of the path is one, and its parts can be followed. -/
theorem place_eq_ok_iff {path : String} {p : Place} :
    t.place path = .ok p ↔
      ('\x00' ∉ path.toList ∧ path.utf8ByteSize < 4096 ∧ path ≠ "") ∧
        t.follow [] (parts path) = .ok p := by
  rw [place]
  constructor
  · intro h
    split at h
    · simp at h
    · next hnul =>
      split at h
      · simp at h
      · next hlong =>
        split at h
        · simp at h
        · next hempty => exact ⟨⟨by simpa using hnul, by omega, hempty⟩, h⟩
  · rintro ⟨⟨hnul, hlong, hempty⟩, h⟩
    rw [if_neg (by simpa using hnul), if_neg (by omega), if_neg hempty, h]

/-- A path that leads to a place leads there as long as the directories are kept. -/
theorem place_of_keeps (hk : Keeps t u) {path : String} {p : Place} (h : t.place path = .ok p) :
    u.place path = .ok p := by
  obtain ⟨htext, hfollow⟩ := place_eq_ok_iff.1 h
  exact place_eq_ok_iff.2 ⟨htext, follow_of_keeps hk hfollow⟩

/-- **A name below a directory** leads to where the directory is, and from there to the name. -/
theorem place_join_eq_ok {dir name : String} {p : Place} (hslash : '/' ∉ name.toList)
    (hname : IsName name) (h : t.place (Path.join dir name) = .ok p) :
    ∃ here, t.follow [] (partsBelow dir) = .ok here ∧ p = here ++ [name] := by
  have hfollow := (place_eq_ok_iff.1 h).2
  rw [parts_join dir hslash] at hfollow
  obtain ⟨here, hhere, hlast⟩ := follow_append_eq_ok.1 hfollow
  exact ⟨here, hhere, (follow_name_eq_ok hname hlast).2⟩

/-- A path leads to a place that ends as the path does, if that ending has no slash and makes
every text a name. -/
theorem place_append_eq_ok {s ending : String} {p : Place} (hslash : '/' ∉ ending.toList)
    (hname : ∀ z, IsName (z ++ ending)) (h : t.place (s ++ ending) = .ok p) :
    ∃ here z, p = here ++ [z ++ ending] := by
  have hfollow := (place_eq_ok_iff.1 h).2
  obtain ⟨ps, z, hps⟩ := exists_parts_append s hslash
  rw [hps] at hfollow
  obtain ⟨here, -, hlast⟩ := follow_append_eq_ok.1 hfollow
  exact ⟨here, z, (follow_name_eq_ok (hname z) hlast).2⟩

/-! ### Changes -/

/-- **A write puts a file where the path leads**, which is not a directory. -/
theorem write_eq_ok {path content : String} (h : t.write path content = .ok u) :
    ∃ p, t.place path = .ok p ∧ p ≠ [] ∧ t.lookup p ≠ some .directory ∧
      u = t.put p (.file content) := by
  rw [write] at h
  split at h
  · simp at h
  · next p hp =>
    have hroot : t.lookup p ≠ some .directory → p ≠ [] := by
      rintro hd rfl
      exact hd (by simp [lookup])
    split at h
    · simp at h
    · next hf =>
      have hd : t.lookup p ≠ some .directory := by simp [hf]
      exact ⟨p, hp, hroot hd, hd, (Except.ok.inj h).symm⟩
    · next hn =>
      have hd : t.lookup p ≠ some .directory := by simp [hn]
      split at h
      · exact ⟨p, hp, hroot hd, hd, (Except.ok.inj h).symm⟩
      · simp at h
      · simp at h

/-- What is read by a path is what is at the place to which it leads. -/
theorem read_eq_ok_iff {path content : String} :
    t.read path = .ok content ↔ ∃ p, t.place path = .ok p ∧ t.lookup p = some (.file content) := by
  rw [read]
  constructor
  · intro h
    split at h
    · simp at h
    · next p hp =>
      split at h
      · simp at h
      · simp at h
      · next s hs => exact ⟨p, hp, (Except.ok.inj h) ▸ hs⟩
  · rintro ⟨p, hp, hs⟩
    simp only [hp, hs]

theorem put_keeps {p : Place} {e : Entry} (hp : t.lookup p ≠ some .directory) :
    Keeps t (t.put p e) := by
  intro q hq
  have hne : q ≠ p := by
    rintro rfl
    exact hp hq
  rw [lookup_put_of_ne t e hne, hq]

/-- Making directories on the way changes nothing that is there. -/
theorem makeAlong_lookup {here : Place} {parts : List String} {q : Place} {e : Entry}
    (h : t.makeAlong here parts = .ok u) (hq : t.lookup q = some e) : u.lookup q = some e := by
  induction parts generalizing t here with
  | nil => exact Except.ok.inj h ▸ hq
  | cons part rest ih =>
      simp only [makeAlong] at h
      split at h
      · exact ih h hq
      · split at h
        · exact ih h hq
        · split at h
          · simp at h
          · split at h
            · exact ih h hq
            · split at h <;> simp at h
            · next hnone =>
              have hne : q ≠ here ++ [part] := by
                rintro rfl
                simp [hnone] at hq
              exact ih h (lookup_put_of_ne t _ hne ▸ hq)

/-- **Making directories changes nothing that is there.** -/
theorem makeDirectories_lookup {path : String} {q : Place} {e : Entry}
    (h : t.makeDirectories path = .ok u) (hq : t.lookup q = some e) : u.lookup q = some e := by
  rw [makeDirectories] at h
  split at h
  · simp at h
  · split at h
    · simp at h
    · exact makeAlong_lookup h hq

end Scenarist.FileTree
