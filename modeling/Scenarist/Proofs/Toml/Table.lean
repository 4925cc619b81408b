import Scenarist.Proofs.Toml.Value

/-!
# Tables of TOML Are Read Back

A table is written as the lines of the members that stand in it and one section after the other for
those with headers of their own. The reader takes the text line by line and keeps the tables that it
built so far, and the place of the last header.

The argument has two halves. Each line makes one **change** in the table at some path, so a text
makes a list of them (`ownChanges`, `sectionChanges`). What a text is read as follows from what its
changes come to: a section `Performs` its changes wherever they can be made, by recursion on the
value, and texts after one another perform their changes after one another. And the changes can be
made: those of a member with headers add it at the end of a table that has no such key
(`perform_sectionChanges`), since a change under a path leaves alone all that is not on it.

The members come back in another order, those with headers last (`arranged`). A header that names
its table is there only if the table has lines of its own or is empty; else the table is made by the
headers inside it.

## Main results

* `leads_member`, `leads_header`: what one line does.
* `performs_sections`: **the sections of a member make its changes**.
* `perform_sectionChanges`: **the changes of a member add it** at the end of its table.
* `parse?_render`: **the text of a table is read back** if it fits (`FitsUnder`).
-/

namespace Scenarist.Toml

open Node (Fresh within put addDotted openTable openElement)

/-! ### Changes of tables -/

/-- A change of a table, unless it cannot be made. -/
abbrev Change := Members → Option Members

/-- Makes changes one after the other. -/
def perform : List Change → Members → Option Members
  | [], ms => some ms
  | f :: fs, ms => (f ms).bind (perform fs)

/-- Changes are made one after another. -/
theorem perform_append (fs gs : List Change) (ms : Members) :
    perform (fs ++ gs) ms = (perform fs ms).bind (perform gs) := by
  induction fs generalizing ms with
  | nil => rfl
  | cons f fs ih =>
      rw [List.cons_append, perform, perform]
      cases f ms with
      | none => rfl
      | some ms' => exact ih ms'

namespace Node

/-- A path of headers is followed part by part. -/
theorem within_append (p q : List String) (f : Change) (ms : Members) :
    within (p ++ q) f ms = within p (within q f) ms := by
  induction p generalizing ms with
  | nil => rfl
  | cons k p ih =>
      rw [List.cons_append, within, within]
      split
      · rw [ih]
      · rw [ih]
      · rw [ih]
      · rfl

/-- What was put last under a key that was not taken is found there. -/
theorem Fresh.lookup_append {key : String} {ms : Members} (h : Fresh key ms) (n : Node) :
    (ms ++ [(key, n)]).lookup key = some n := by
  rw [List.lookup_append, h.lookup_eq]
  simp

/-- What was put last under a key that was not taken is replaced there. -/
theorem Fresh.put_append {key : String} {ms : Members} (h : Fresh key ms) (n m : Node) :
    put key n (ms ++ [(key, m)]) = ms ++ [(key, n)] := by
  induction ms with
  | nil => exact if_pos rfl
  | cons x ms ih =>
      rw [Fresh, List.map_cons, List.mem_cons, not_or] at h
      rw [List.cons_append, put, if_neg (Ne.symm h.1), ih h.2, List.cons_append]

variable {key : String} {ms : Members}

/-- Changes inside the table that was added last. -/
theorem perform_within_table (h : Fresh key ms) (fs : List Change) (implicit dotted : Bool)
    (inner : Members) :
    perform (fs.map (within [key])) (ms ++ [(key, .table implicit dotted inner)]) =
      (perform fs inner).map fun inner => ms ++ [(key, .table implicit dotted inner)] := by
  induction fs generalizing inner with
  | nil => rfl
  | cons f fs ih =>
      have hstep : within [key] f (ms ++ [(key, .table implicit dotted inner)]) =
          (f inner).map fun inner => ms ++ [(key, .table implicit dotted inner)] := by
        rw [within, h.lookup_append]
        dsimp only
        simp only [h.put_append]
        rfl
      rw [List.map_cons, perform, perform, hstep]
      cases f inner with
      | none => rfl
      | some inner' => exact ih inner'

/-- Changes inside the latest table of an array that was added last. -/
theorem perform_within_tables (h : Fresh key ms) (fs : List Change) (inner : Members)
    (earlier : List Members) :
    perform (fs.map (within [key])) (ms ++ [(key, .tables (inner :: earlier))]) =
      (perform fs inner).map fun inner => ms ++ [(key, .tables (inner :: earlier))] := by
  induction fs generalizing inner with
  | nil => rfl
  | cons f fs ih =>
      have hstep : within [key] f (ms ++ [(key, .tables (inner :: earlier))]) =
          (f inner).map fun inner => ms ++ [(key, .tables (inner :: earlier))] := by
        rw [within, h.lookup_append]
        dsimp only
        simp only [h.put_append]
        rfl
      rw [List.map_cons, perform, perform, hstep]
      cases f inner with
      | none => rfl
      | some inner' => exact ih inner'

/-- Changes inside a table that is not there yet, which is made for them. -/
theorem perform_within_fresh (h : Fresh key ms) {fs : List Change} (hne : fs ≠ []) :
    perform (fs.map (within [key])) ms =
      (perform fs []).map fun inner => ms ++ [(key, .table true false inner)] := by
  cases fs with
  | nil => exact absurd rfl hne
  | cons f fs =>
      have hstep : within [key] f ms =
          (f []).map fun inner => ms ++ [(key, .table true false inner)] := by
        rw [within, h.lookup_eq]
        dsimp only
        simp only [h.put_eq]
        rfl
      rw [List.map_cons, perform, perform, hstep]
      cases f [] with
      | none => rfl
      | some inner => exact perform_within_table h fs true false inner

end Node

/-! ### Lines -/

/-- The text **leads** from one place with its tables to another: it is read up to its end, whatever
follows it. -/
def Leads (path : List String) (root : Members) (text : List Char) (path' : List String)
    (root' : Members) : Prop :=
  ∀ fuel rest, (text ++ rest).length < fuel → ∃ fuel', rest.length < fuel' ∧
    readLines path root fuel (text ++ rest) = readLines path' root' fuel' rest

section

variable {path path' path'' : List String} {root root' root'' : Members} {text text' : List Char}

/-- The empty text leads to where it stands. -/
theorem Leads.refl (path : List String) (root : Members) : Leads path root [] path root :=
  fun fuel _ hfuel => ⟨fuel, hfuel, rfl⟩

/-- A text leads on from where another one has led. -/
theorem Leads.trans (h : Leads path root text path' root')
    (h' : Leads path' root' text' path'' root'') :
    Leads path root (text ++ text') path'' root'' := by
  intro fuel rest hfuel
  rw [List.append_assoc] at hfuel ⊢
  obtain ⟨fuel', hfuel', heq⟩ := h fuel (text' ++ rest) hfuel
  obtain ⟨fuel'', hfuel'', heq'⟩ := h' fuel' rest hfuel'
  exact ⟨fuel'', hfuel'', heq.trans heq'⟩

/-- What is read of a line is read of a text that begins with it. -/
theorem leads_of_step (h : ∀ fuel rest, readLines path root (fuel + 1) (text ++ rest) =
    readLines path' root' fuel rest) (hne : text ≠ []) : Leads path root text path' root' := by
  intro fuel rest hfuel
  obtain ⟨fuel, rfl⟩ := Nat.exists_eq_succ_of_ne_zero (Nat.ne_zero_of_lt hfuel)
  refine ⟨fuel, ?_, h fuel rest⟩
  have hlength := List.length_pos_iff.2 hne
  rw [List.length_append] at hfuel
  omega

/-- An empty line changes nothing. -/
theorem leads_empty (path : List String) (root : Members) : Leads path root ['\n'] path root :=
  leads_of_step (fun _ _ => rfl) (by simp)

/-- A newline ends its line. -/
theorem endOfLine?_newline (rest : List Char) : endOfLine? ('\n' :: rest) = some rest := rfl

/-- What is read of the line of a member. -/
theorem readLines_member {v : Toml} (hv : Held v) (k : String) (fuel : Nat) (rest : List Char) :
    readLines path root (fuel + 1)
        (keyForm k ++ " = ".toList ++ valueForm v ++ ['\n'] ++ rest) =
      (value ((valueForm v).length + rest.length + 3) 0 (valueForm v ++ '\n' :: rest)).bind fun r =>
        (endOfLine? r.2).bind fun rest =>
          (within path (addDotted r.1 [k]) root).bind fun root =>
            readLines path root fuel rest := by
  have htext : keyForm k ++ " = ".toList ++ valueForm v ++ ['\n'] ++ rest =
      keyForm k ++ ' ' :: '=' :: ' ' :: (valueForm v ++ '\n' :: rest) := by simp
  have hinked := inked_keyForm k (' ' :: '=' :: ' ' :: (valueForm v ++ '\n' :: rest))
  have hequals : after? '=' ('=' :: ' ' :: (valueForm v ++ '\n' :: rest)) =
      some (' ' :: (valueForm v ++ '\n' :: rest)) := rfl
  have hblank :
      dropBlanks (' ' :: (valueForm v ++ '\n' :: rest)) = valueForm v ++ '\n' :: rest := by
    rw [dropBlanks, List.dropWhile_cons_of_pos (by decide)]
    exact (inked_valueForm hv _).dropBlanks_eq
  have hlength : (' ' :: (valueForm v ++ '\n' :: rest)).length + 1 =
      (valueForm v).length + rest.length + 3 := by
    simp
    omega
  rw [htext, readLines, hinked.dropBlanks_eq]
  split
  · next heq =>
    obtain ⟨c, cs, hkey, -⟩ := exists_keyForm k
    rw [hkey] at heq
    cases heq
  · next heq =>
    exact absurd (congrArg List.head? heq) (keyForm_head?_ne k (d := '#') (by decide) (by decide) _)
  · next heq =>
    exact absurd (congrArg List.head? heq) (keyForm_head?_ne k (d := '[') (by decide) (by decide) _)
  · next heq =>
    exact absurd (congrArg List.head? heq) (keyForm_head?_ne k (d := '[') (by decide) (by decide) _)
  · rw [hinked.lineEnd?_eq]
    dsimp only
    rw [keyPath_equals k _ hinked.dropBlanks_eq]
    dsimp only [Option.bind_eq_bind, Option.bind_some]
    rw [hequals]
    dsimp only [Option.bind_some]
    rw [hblank, hlength]

/-- **The line of a member adds its value** to the table of the last header. -/
theorem leads_member {k : String} {v : Toml} (hv : Held v) (hfits : FitsIn (depthLimit - 1) v)
    (h : within path (addDotted (reread v) [k]) root = some root') :
    Leads path root (keyForm k ++ " = ".toList ++ valueForm v ++ ['\n']) path root' := by
  refine leads_of_step (fun fuel rest => ?_) (by simp)
  have hread : ReadsBack v 0 := readsBack_of_held hv hfits (by decide)
  have hvalue := hread ((valueForm v).length + rest.length + 3) ('\n' :: rest) (by omega)
    (stops_cons (by decide) rest)
  rw [readLines_member hv, hvalue]
  dsimp only [Option.bind_some]
  rw [endOfLine?_newline]
  dsimp only [Option.bind_some]
  rw [h]
  rfl

/-- The last part of a path is its own key. -/
theorem splitLast_append (p : List String) (k : String) : splitLast (p ++ [k]) = some (p, k) := by
  induction p with
  | nil => rfl
  | cons l p ih =>
      cases p with
      | nil => rfl
      | cons m p =>
          rw [List.cons_append, List.cons_append, splitLast, ← List.cons_append, ih]
          · rfl
          · simp

/-- The change that a header makes in the table before its last key. -/
def opening (element : Bool) (k : String) : Change := if element then openElement k else openTable k

/-- The path of a header is read back if it has not too many parts. -/
theorem keyPath_header {p : List String} (hne : p ≠ []) (hparts : p.length ≤ depthLimit - 1)
    (rest : List Char) : keyPath (pathForm p ++ ']' :: rest) = some (p, ']' :: rest) := by
  have hbracket : dropBlanks (']' :: rest) = ']' :: rest :=
    List.dropWhile_cons_of_neg (by decide)
  have hread : keyPath (pathForm p ++ ']' :: rest) = some (p, dropBlanks (']' :: rest)) :=
    key_pathForm hne hparts (by rintro c ⟨⟩; decide) (by rw [hbracket]; simp)
      (inked_pathForm hne (']' :: rest)).dropBlanks_eq
  rwa [hbracket] at hread

/-- What is read of the header of an element of an array. -/
theorem readLines_element (fuel : Nat) (cs : List Char) :
    readLines path root (fuel + 1) ('[' :: '[' :: cs) =
      (keyPath cs).bind fun r => (after? ']' r.2).bind fun rest =>
        (after? ']' rest).bind fun rest => (endOfLine? rest).bind fun rest =>
          (splitLast r.1).bind fun parts =>
            (within parts.1 (openElement parts.2) root).bind fun root =>
              readLines r.1 root fuel rest := by
  have hblank : dropBlanks ('[' :: '[' :: cs) = '[' :: '[' :: cs :=
    List.dropWhile_cons_of_neg (by decide)
  rw [readLines, hblank]
  rfl

/-- What is read of the header of a table. -/
theorem readLines_table (fuel : Nat) {cs : List Char} (hhead : cs.head? ≠ some '[') :
    readLines path root (fuel + 1) ('[' :: cs) =
      (keyPath cs).bind fun r => (after? ']' r.2).bind fun rest =>
        (endOfLine? rest).bind fun rest => (splitLast r.1).bind fun parts =>
          (within parts.1 (openTable parts.2) root).bind fun root =>
            readLines r.1 root fuel rest := by
  have hblank : dropBlanks ('[' :: cs) = '[' :: cs := List.dropWhile_cons_of_neg (by decide)
  rw [readLines, hblank]
  split
  · next heq => cases heq
  · next heq => cases heq
  · next heq =>
    rw [(List.cons.inj heq).2] at hhead
    exact absurd rfl hhead
  · next heq =>
    rw [← (List.cons.inj heq).2]
    rfl
  · next hne => exact absurd rfl (hne _)

/-- The header of an element stands in two pairs of brackets. -/
theorem headerLine_element (p : List String) (rest : List Char) :
    headerLine true p ++ rest = '[' :: '[' :: (pathForm p ++ ']' :: ']' :: '\n' :: rest) := by
  simp [headerLine]

/-- The header of a table stands in one pair of brackets. -/
theorem headerLine_table (p : List String) (rest : List Char) :
    headerLine false p ++ rest = '[' :: (pathForm p ++ ']' :: '\n' :: rest) := by
  simp [headerLine]

/-- No header is empty. -/
theorem headerLine_ne_nil (element : Bool) (p : List String) : headerLine element p ≠ [] := by
  cases element <;> simp [headerLine]

/-- **A header opens its table**, unless it has too many parts. -/
theorem leads_header {p : List String} {k : String} {element : Bool}
    (hparts : p.length + 1 ≤ depthLimit - 1)
    (h : within p (opening element k) root = some root') :
    Leads path root (headerLine element (p ++ [k])) (p ++ [k]) root' := by
  have hlength : (p ++ [k]).length ≤ depthLimit - 1 := by
    rw [List.length_append, List.length_singleton]
    exact hparts
  have hclose (cs : List Char) : after? ']' (']' :: cs) = some cs := rfl
  refine leads_of_step (fun fuel rest => ?_) (headerLine_ne_nil element _)
  cases element with
  | true =>
      rw [headerLine_element, readLines_element, keyPath_header (by simp) hlength]
      dsimp only [Option.bind_some]
      rw [hclose]
      dsimp only [Option.bind_some]
      rw [hclose]
      dsimp only [Option.bind_some]
      rw [endOfLine?_newline]
      dsimp only [Option.bind_some]
      rw [splitLast_append]
      exact congrArg (Option.bind · _) h
  | false =>
      have hhead (cs : List Char) : (pathForm (p ++ [k]) ++ cs).head? ≠ some '[' :=
        pathForm_head?_ne (by simp) (by decide) (by decide) cs
      rw [headerLine_table, readLines_table fuel (hhead _), keyPath_header (by simp) hlength]
      dsimp only [Option.bind_some]
      rw [hclose]
      dsimp only [Option.bind_some]
      rw [endOfLine?_newline]
      dsimp only [Option.bind_some]
      rw [splitLast_append]
      exact congrArg (Option.bind · _) h

/-! ### Sections -/

/-- The changes that the lines of a table's own members make in it. -/
def ownChanges : List (String × Toml) → List Change
  | [] => []
  | (k, v) :: rest =>
    if hasHeader v then ownChanges rest else addDotted (reread v) [k] :: ownChanges rest

mutual

/-- The changes that the sections of a member make in the table it belongs to. -/
def sectionChanges (element : Bool) (key : String) : Toml → List Change
  | .table members =>
    let here :=
      if element || members.isEmpty || !(ownLines members).isEmpty then
        opening element key :: (ownChanges members).map (within [key]) else []
    here ++ (memberChanges members).map (within [key])
  | .array items => elementChanges key items
  | _ => []

/-- The changes that the sections of its members make in a table. -/
def memberChanges : List (String × Toml) → List Change
  | [] => []
  | (k, v) :: rest => (if hasHeader v then sectionChanges false k v else []) ++ memberChanges rest

/-- The changes that the sections of the elements of an array make. -/
def elementChanges (key : String) : List Toml → List Change
  | [] => []
  | v :: rest => sectionChanges true key v ++ elementChanges key rest

end

/-- The values on the lines of a table's own members have no more brackets than can be read. -/
def OwnFit (members : List (String × Toml)) : Prop :=
  ∀ m ∈ members, hasHeader m.2 = false → FitsIn (depthLimit - 1) m.2

mutual

/-- The value **fits under** a header with so many parts: no header of its sections has more parts
than can be read, and no value on their lines more brackets. -/
def FitsUnder (parts : Nat) : Toml → Prop
  | .table members => parts ≤ depthLimit - 1 ∧ OwnFit members ∧ HeadedFit parts members
  | .array items => ElementsFit parts items
  | _ => True

/-- The members with headers fit under headers with one part more. -/
def HeadedFit (parts : Nat) : List (String × Toml) → Prop
  | [] => True
  | (_, v) :: rest => (hasHeader v = true → FitsUnder (parts + 1) v) ∧ HeadedFit parts rest

/-- The elements fit under headers with so many parts. -/
def ElementsFit (parts : Nat) : List Toml → Prop
  | [] => True
  | v :: rest => FitsUnder parts v ∧ ElementsFit parts rest

end

/-- The text of some sections, an empty line before each. -/
def spaced (parts : List (List Char)) : List Char := parts.flatMap ('\n' :: ·)

/-- The text **performs** the changes inside the table at a path, if they can be made. -/
def Performs (p : List String) (text : List Char) (fs : List Change) : Prop :=
  ∀ path root root', perform (fs.map (within p)) root = some root' →
    ∃ path', Leads path root text path' root'

/-- No text is needed where there are no changes. -/
theorem performs_nil (p : List String) : Performs p [] [] := by
  intro path root root' h
  cases h
  exact ⟨path, .refl path _⟩

/-- One text after another performs the changes of the one and then those of the other. -/
theorem Performs.append {p : List String} {fs gs : List Change} (h : Performs p text fs)
    (h' : Performs p text' gs) : Performs p (text ++ text') (fs ++ gs) := by
  intro path root root'' hperform
  rw [List.map_append, perform_append, Option.bind_eq_some_iff] at hperform
  obtain ⟨root', hfirst, hsecond⟩ := hperform
  obtain ⟨path', hleads⟩ := h path root root' hfirst
  obtain ⟨path'', hleads'⟩ := h' path' root' root'' hsecond
  exact ⟨path'', hleads.trans hleads'⟩

/-- Changes in a table inside a table are changes at the longer path. -/
theorem map_within_map (p : List String) (k : String) (fs : List Change) :
    (fs.map (within [k])).map (within p) = fs.map (within (p ++ [k])) := by
  rw [List.map_map]
  refine List.map_congr_left fun f _ => funext fun ms => ?_
  exact (Node.within_append p [k] f ms).symm

/-- The changes of a table are performed inside the table around it. -/
theorem Performs.nested {p : List String} {k : String} {fs : List Change}
    (h : Performs (p ++ [k]) text fs) : Performs p text (fs.map (within [k])) := by
  intro path root root' hperform
  rw [map_within_map] at hperform
  exact h path root root' hperform

/-- The lines of a table's own members make their changes. -/
theorem leads_ownLines {members : List (String × Toml)} (hheld : MembersHeld members)
    (hfits : OwnFit members)
    (h : perform ((ownChanges members).map (within path)) root = some root') :
    Leads path root (ownLines members) path root' := by
  induction members generalizing root with
  | nil =>
      cases h
      exact .refl path _
  | cons m members ih =>
      obtain ⟨k, v⟩ := m
      obtain ⟨hv, hheld⟩ := hheld
      rw [OwnFit, List.forall_mem_cons] at hfits
      rw [ownChanges] at h
      rw [ownLines]
      by_cases hheader : hasHeader v = true
      · rw [if_pos hheader] at h ⊢
        exact ih hheld hfits.2 h
      · rw [if_neg hheader] at h ⊢
        rw [List.map_cons, perform, Option.bind_eq_some_iff] at h
        obtain ⟨root₁, hfirst, hrest⟩ := h
        exact (leads_member hv (hfits.1 (Bool.not_eq_true _ ▸ hheader)) hfirst).trans
          (ih hheld hfits.2 hrest)

/-- The section of a table makes its changes. -/
theorem performs_section {p : List String} {k : String} {element : Bool}
    {members : List (String × Toml)} (hheld : MembersHeld members) (hfits : OwnFit members)
    (hparts : p.length + 1 ≤ depthLimit - 1) :
    Performs p ('\n' :: (headerLine element (p ++ [k]) ++ ownLines members))
      (opening element k :: (ownChanges members).map (within [k])) := by
  intro path root root' h
  rw [List.map_cons, perform, Option.bind_eq_some_iff] at h
  obtain ⟨root₁, hopen, hown⟩ := h
  rw [map_within_map] at hown
  have hheader : Leads path root (headerLine element (p ++ [k])) (p ++ [k]) root₁ :=
    leads_header hparts hopen
  exact ⟨p ++ [k], (leads_empty path root).trans
    (hheader.trans (leads_ownLines hheld hfits hown))⟩

mutual

/-- **The sections of a member make its changes.** -/
theorem performs_sections (v : Toml) (hheld : Held v) {p : List String} (k : String)
    (element : Bool) (hfits : FitsUnder (p.length + 1) v) :
    Performs p (spaced (sections element (p ++ [k]) v)) (sectionChanges element k v) := by
  cases v with
  | string | integer | float | bool | date => exact performs_nil p
  | array items => exact performs_elements items hheld k hfits
  | table members =>
      obtain ⟨hparts, hown, hheaded⟩ := hfits
      have hmembers := performs_members members hheld.2 (p := p ++ [k])
        (by rw [List.length_append]; exact hheaded)
      rw [sections, sectionChanges, spaced, List.flatMap_append]
      refine Performs.append ?_ hmembers.nested
      split
      · rw [List.flatMap_singleton]
        exact performs_section hheld.2 hown hparts
      · exact performs_nil p

/-- **The sections of members perform their changes** if the members fit. -/
theorem performs_members (members : List (String × Toml)) (hheld : MembersHeld members)
    {p : List String} (hfits : HeadedFit p.length members) :
    Performs p (spaced (memberSections p members)) (memberChanges members) := by
  cases members with
  | nil => exact performs_nil p
  | cons m members =>
      obtain ⟨k, v⟩ := m
      rw [memberSections, memberChanges, spaced, List.flatMap_append]
      refine Performs.append ?_ (performs_members members hheld.2 hfits.2)
      split
      · next hheader => exact performs_sections v hheld.1 k false (hfits.1 hheader)
      · exact performs_nil p

/-- **The sections of the elements of an array perform their changes** if the elements fit. -/
theorem performs_elements (items : List Toml) (hheld : ItemsHeld items) {p : List String}
    (k : String) (hfits : ElementsFit (p.length + 1) items) :
    Performs p (spaced (elementSections (p ++ [k]) items)) (elementChanges k items) := by
  cases items with
  | nil => exact performs_nil p
  | cons v items =>
      rw [elementSections, elementChanges, spaced, List.flatMap_append]
      exact Performs.append (performs_sections v hheld.1 k true hfits.1)
        (performs_elements items hheld.2 k hfits.2)

end

end

/-! ### What the changes come to -/

/-- The members that are written in the section of their table, as they read back. -/
def ownMembers : List (String × Toml) → List (String × Toml)
  | [] => []
  | (k, v) :: rest => if hasHeader v then ownMembers rest else (k, reread v) :: ownMembers rest

mutual

/-- **How a value reads back**: the members of a table that have headers of their own come after
those that have none. -/
def arranged : Toml → Toml
  | .table members => .table (ownMembers members ++ headedMembers members)
  | .array items => .array (arrangedItems items)
  | v => v

/-- The members with headers, as they read back. -/
def headedMembers : List (String × Toml) → List (String × Toml)
  | [] => []
  | (k, v) :: rest => (if hasHeader v then [(k, arranged v)] else []) ++ headedMembers rest

/-- The elements of an array, as they read back under headers. -/
def arrangedItems : List Toml → List Toml
  | [] => []
  | v :: rest => arranged v :: arrangedItems rest

end

/-- How a member's value reads back, under a header or not. -/
def readBack (v : Toml) : Toml := if hasHeader v then arranged v else reread v

/-- The members of a table that was read back are those that were written, in another order. -/
theorem perm_members (members : List (String × Toml)) :
    (ownMembers members ++ headedMembers members).Perm
      (members.map fun m => (m.1, readBack m.2)) := by
  induction members with
  | nil => exact .refl _
  | cons m members ih =>
      obtain ⟨k, v⟩ := m
      rw [ownMembers, headedMembers, List.map_cons, readBack]
      by_cases hheader : hasHeader v = true
      · simp only [if_pos hheader, List.singleton_append]
        exact List.perm_middle.trans (ih.cons _)
      · simp only [if_neg hheader, List.nil_append, List.cons_append]
        exact ih.cons _

/-- No key is there twice when the members are arranged. -/
theorem nodup_members {members : List (String × Toml)} (h : (members.map Prod.fst).Nodup) :
    ((ownMembers members).map Prod.fst ++ (headedMembers members).map Prod.fst).Nodup := by
  rw [← List.map_append]
  refine (((perm_members members).map Prod.fst).nodup_iff).2 ?_
  rw [List.map_map]
  exact h

open Node (finish finishMembers finishElements)

/-- The nodes of finished members. -/
def leaves (members : List (String × Toml)) : Members := members.map fun m => (m.1, .leaf m.2)

/-- Members that are leaves are finished as they are. -/
theorem finishMembers_leaves (members : List (String × Toml)) :
    finishMembers (leaves members) = members := by
  induction members with
  | nil => rfl
  | cons m members ih =>
      change (m.1, m.2) :: finishMembers (leaves members) = _
      rw [ih]

/-- None of the keys is taken. -/
def AllFresh (keys : List String) (ms : Members) : Prop := ∀ k ∈ keys, Fresh k ms

/-- Keys are still not taken when something is put under another one. -/
theorem AllFresh.append {keys : List String} {ms : Members} {k : String} (h : AllFresh keys ms)
    (hk : k ∉ keys) (n : Node) : AllFresh keys (ms ++ [(k, n)]) := fun key hkey =>
  (h key hkey).append (by rintro rfl; exact hk hkey) n

/-- The members on lines of their own are added in order if none of their keys is taken. -/
theorem perform_ownChanges {members : List (String × Toml)} {ms : Members}
    (hkeys : ((ownMembers members).map Prod.fst).Nodup)
    (hfresh : AllFresh ((ownMembers members).map Prod.fst) ms) :
    perform (ownChanges members) ms = some (ms ++ leaves (ownMembers members)) := by
  induction members generalizing ms with
  | nil => exact congrArg some (List.append_nil ms).symm
  | cons m members ih =>
      obtain ⟨k, v⟩ := m
      rw [ownMembers] at hkeys hfresh ⊢
      rw [ownChanges]
      by_cases hheader : hasHeader v = true
      · rw [if_pos hheader] at hkeys hfresh ⊢
        rw [if_pos hheader]
        exact ih hkeys hfresh
      · rw [if_neg hheader] at hkeys hfresh ⊢
        rw [if_neg hheader]
        rw [List.map_cons, List.nodup_cons] at hkeys
        have hrest : AllFresh ((ownMembers members).map Prod.fst) ms := fun key hkey =>
          hfresh key (List.mem_cons_of_mem k hkey)
        rw [perform, Node.addDotted_of_fresh (hfresh k List.mem_cons_self), Option.bind_some,
          ih hkeys.2 (hrest.append hkeys.1 _), List.append_assoc]
        rfl

/-- Without lines of their own, all members have headers. -/
theorem hasHeader_of_ownLines {members : List (String × Toml)} (h : ownLines members = []) :
    ∀ m ∈ members, hasHeader m.2 = true := by
  induction members with
  | nil => simp
  | cons m members ih =>
      obtain ⟨k, v⟩ := m
      rw [ownLines, List.append_eq_nil_iff] at h
      rw [List.forall_mem_cons]
      refine ⟨?_, ih h.2⟩
      by_contra hheader
      have hline := h.1
      rw [if_neg hheader] at hline
      simp at hline

/-- A table without lines of its own has no members of its own. -/
theorem ownMembers_of_ownLines {members : List (String × Toml)} (h : ownLines members = []) :
    ownMembers members = [] ∧ ownChanges members = [] := by
  have hall := hasHeader_of_ownLines h
  clear h
  induction members with
  | nil => exact ⟨rfl, rfl⟩
  | cons m members ih =>
      rw [List.forall_mem_cons] at hall
      rw [ownMembers, ownChanges, if_pos hall.1, if_pos hall.1]
      exact ih hall.2

/-- What is written under headers has a section. -/
theorem sectionChanges_ne_nil (v : Toml) (hheader : hasHeader v = true) (element : Bool)
    (key : String) : sectionChanges element key v ≠ [] := by
  match v with
  | .table [] => simp [sectionChanges]
  | .table ((k, w) :: members) =>
      rw [sectionChanges]
      split
      · simp
      · next hown =>
        simp only [Bool.or_eq_true, not_or, Bool.not_eq_true', Bool.not_eq_false,
          List.isEmpty_iff] at hown
        have hw := hasHeader_of_ownLines hown.2 (k, w) List.mem_cons_self
        rw [memberChanges, if_pos hw]
        simp [sectionChanges_ne_nil w hw false k]
  | .array [] => cases hheader
  | .array (.table members :: items) => simp [sectionChanges, elementChanges]
  | .array (.string _ :: _) | .array (.integer _ :: _) | .array (.float _ :: _)
  | .array (.bool _ :: _) | .array (.date _ :: _) | .array (.array _ :: _) => cases hheader
  | .string _ | .integer _ | .float _ | .bool _ | .date _ => cases hheader

/-- The members with headers are added at the end of their table. -/
def Adds (fs : List Change) (members : List (String × Toml)) : Prop :=
  ∃ ns, finishMembers ns = members ∧ ∀ ms, AllFresh (members.map Prod.fst) ms →
    perform fs ms = some (ms ++ ns)

/-- What a table holds after the changes of all its members. -/
theorem Adds.contents {members : List (String × Toml)} (hkeys : (members.map Prod.fst).Nodup)
    (h : Adds (memberChanges members) (headedMembers members)) :
    ∃ inner, finishMembers inner = ownMembers members ++ headedMembers members ∧
      perform (ownChanges members ++ memberChanges members) [] = some inner := by
  obtain ⟨ns, hfinish, hadds⟩ := h
  have hnodup := nodup_members hkeys
  rw [List.nodup_append] at hnodup
  obtain ⟨hown, -, hdisjoint⟩ := hnodup
  have hleaves : (leaves (ownMembers members)).map Prod.fst =
      (ownMembers members).map Prod.fst := by
    rw [leaves, List.map_map]
    rfl
  have hfresh : AllFresh ((headedMembers members).map Prod.fst) (leaves (ownMembers members)) := by
    intro k hk hmem
    rw [hleaves] at hmem
    exact hdisjoint k hmem k hk rfl
  refine ⟨leaves (ownMembers members) ++ ns, ?_, ?_⟩
  · rw [Node.finishMembers_append, finishMembers_leaves, hfinish]
  · have hempty : AllFresh ((ownMembers members).map Prod.fst) [] := fun _ _ => List.not_mem_nil
    rw [perform_append, perform_ownChanges hown hempty, Option.bind_some, List.nil_append]
    exact hadds _ hfresh

/-- Elements are finished one by one. -/
theorem Node.finishElements_append (xs ys : List Members) :
    finishElements (xs ++ ys) = finishElements xs ++ finishElements ys := by
  induction xs with
  | nil => rfl
  | cons x xs ih => rw [List.cons_append, finishElements, ih, finishElements, List.cons_append]

/-- A table that holds only tables has changes to make inside it. -/
theorem memberChanges_ne_nil {members : List (String × Toml)} (hne : members ≠ [])
    (hown : ownLines members = []) : memberChanges members ≠ [] := by
  obtain ⟨⟨k, v⟩, members, rfl⟩ := List.exists_cons_of_ne_nil hne
  have hv := hasHeader_of_ownLines hown (k, v) List.mem_cons_self
  rw [memberChanges, if_pos hv]
  simp [sectionChanges_ne_nil v hv false k]

/-- The first element of an array makes the array. -/
theorem perform_elementChanges_fresh {items : List Toml} (hne : items ≠ [])
    (htables : items.all isTable = true) {k : String} {ms : Members} (hms : Fresh k ms) :
    perform (elementChanges k items) ms =
      perform (elementChanges k items) (ms ++ [(k, .tables [])]) := by
  obtain ⟨v, items, rfl⟩ := List.exists_cons_of_ne_nil hne
  cases v with
  | table members =>
      have hopen : opening true k ms = opening true k (ms ++ [(k, .tables [])]) := by
        change openElement k ms = openElement k _
        rw [openElement, openElement, hms.lookup_eq, hms.lookup_append]
        exact congrArg some ((hms.put_eq _).trans (hms.put_append _ _).symm)
      rw [elementChanges, sectionChanges]
      simp only [Bool.true_or, if_true]
      rw [List.cons_append, List.cons_append, perform, perform, hopen]
  | string | integer | float | bool | date | array => cases htables

mutual

/-- **The changes of a member add it at the end** of its table. -/
theorem perform_sectionChanges (v : Toml) (hheader : hasHeader v = true) (hheld : Held v)
    (k : String) : ∃ n, finish n = arranged v ∧ ∀ ms, Fresh k ms →
      perform (sectionChanges false k v) ms = some (ms ++ [(k, n)]) := by
  match v with
  | .table members =>
      obtain ⟨inner, hfinish, hinner⟩ := (perform_memberChanges members hheld.2
        (nodup_members hheld.1).of_append_right).contents hheld.1
      rw [sectionChanges]
      split
      · refine ⟨.table false false inner, congrArg Toml.table hfinish, fun ms hms => ?_⟩
        have hopen : opening false k ms = some (ms ++ [(k, .table false false [])]) := by
          change openTable k ms = _
          rw [openTable, hms.lookup_eq]
          exact congrArg some (hms.put_eq _)
        rw [List.cons_append, ← List.map_append, perform, hopen, Option.bind_some,
          Node.perform_within_table hms, hinner]
        rfl
      · next hown =>
        simp only [Bool.or_eq_true, not_or, Bool.not_eq_true', Bool.not_eq_false,
          List.isEmpty_iff] at hown
        have hne := memberChanges_ne_nil hown.1.2 hown.2
        rw [(ownMembers_of_ownLines hown.2).2, List.nil_append] at hinner
        refine ⟨.table true false inner, congrArg Toml.table hfinish, fun ms hms => ?_⟩
        rw [List.nil_append, Node.perform_within_fresh hms hne, hinner]
        rfl
  | .array items =>
      rw [hasHeader, Bool.and_eq_true] at hheader
      obtain ⟨elements, hfinish, hadds⟩ := perform_elementChanges items hheader.2 hheld k
      refine ⟨.tables elements, ?_, fun ms hms => ?_⟩
      · rw [finish, hfinish, List.reverse_reverse, arranged]
      · rw [sectionChanges, perform_elementChanges_fresh (by simpa using hheader.1) hheader.2 hms,
          hadds ms [] hms, List.append_nil]
  | .string _ | .integer _ | .float _ | .bool _ | .date _ => cases hheader

/-- The changes of its members add those with headers to a table. -/
theorem perform_memberChanges (members : List (String × Toml)) (hheld : MembersHeld members)
    (hkeys : ((headedMembers members).map Prod.fst).Nodup) :
    Adds (memberChanges members) (headedMembers members) := by
  match members with
  | [] => exact ⟨[], rfl, fun ms _ => congrArg some (List.append_nil ms).symm⟩
  | (k, v) :: members =>
      rw [headedMembers] at hkeys ⊢
      rw [memberChanges]
      by_cases hheader : hasHeader v = true
      · simp only [if_pos hheader, List.singleton_append, List.map_cons, List.nodup_cons] at hkeys ⊢
        obtain ⟨n, hfinish, hadds⟩ := perform_sectionChanges v hheader hheld.1 k
        obtain ⟨ns, hfinish', hadds'⟩ := perform_memberChanges members hheld.2 hkeys.2
        refine ⟨(k, n) :: ns, ?_, fun ms hfresh => ?_⟩
        · rw [finishMembers, hfinish, hfinish']
        · have hrest : AllFresh ((headedMembers members).map Prod.fst) ms := fun key hkey =>
            hfresh key (List.mem_cons_of_mem k hkey)
          rw [perform_append, hadds ms (hfresh k List.mem_cons_self), Option.bind_some,
            hadds' _ (hrest.append hkeys.1 n), List.append_assoc]
          rfl
      · simp only [if_neg hheader, List.nil_append] at hkeys ⊢
        exact perform_memberChanges members hheld.2 hkeys

/-- The changes of the elements of an array add them to it, the latest first. -/
theorem perform_elementChanges (items : List Toml) (htables : items.all isTable = true)
    (hheld : ItemsHeld items) (k : String) :
    ∃ elements, finishElements elements = (arrangedItems items).reverse ∧
      ∀ ms earlier, Fresh k ms → perform (elementChanges k items) (ms ++ [(k, .tables earlier)]) =
        some (ms ++ [(k, .tables (elements ++ earlier))]) := by
  match items with
  | [] => exact ⟨[], rfl, fun ms earlier _ => rfl⟩
  | .table members :: items =>
      obtain ⟨inner, hfinish, hinner⟩ := (perform_memberChanges members hheld.1.2
        (nodup_members hheld.1.1).of_append_right).contents hheld.1.1
      obtain ⟨elements, hfinish', hadds⟩ := perform_elementChanges items htables hheld.2 k
      refine ⟨elements ++ [inner], ?_, fun ms earlier hms => ?_⟩
      · rw [Node.finishElements_append, hfinish', arrangedItems, List.reverse_cons, arranged,
          ← hfinish]
        rfl
      · have hopen : opening true k (ms ++ [(k, .tables earlier)]) =
            some (ms ++ [(k, .tables ([] :: earlier))]) := by
          change openElement k _ = _
          rw [openElement, hms.lookup_append]
          exact congrArg some (hms.put_append _ _)
        rw [elementChanges, sectionChanges]
        simp only [Bool.true_or, if_true]
        rw [List.cons_append, ← List.map_append, List.cons_append, perform, hopen,
          Option.bind_some, perform_append, Node.perform_within_tables hms, hinner, Option.map_some,
          Option.bind_some, hadds ms (inner :: earlier) hms, List.append_assoc]
        rfl
  | .string _ :: _ | .integer _ :: _ | .float _ :: _ | .bool _ :: _ | .date _ :: _
  | .array _ :: _ => cases htables

end

/-! ### Texts -/

/-- At the empty path changes are made in the table itself. -/
theorem within_nil (fs : List Change) : fs.map (within []) = fs := by
  have hid : within [] = id := rfl
  rw [hid, List.map_id]

/-- The parts of the text of a table. -/
def textParts (members : List (String × Toml)) : List (List Char) :=
  (if (ownLines members).isEmpty then [] else [ownLines members]) ++ memberSections [] members

/-- The text of a table are its parts with empty lines between them. -/
theorem render_eq (members : List (String × Toml)) :
    render members = String.ofList (List.intercalate ['\n'] (textParts members)) := rfl

/-- The lines before the first header. -/
theorem spaced_ownLines (members : List (String × Toml)) :
    spaced (if (ownLines members).isEmpty then [] else [ownLines members]) =
      if ownLines members = [] then [] else '\n' :: ownLines members := by
  by_cases h : ownLines members = []
  · rw [if_pos h, if_pos (List.isEmpty_iff.2 h)]
    rfl
  · rw [if_neg h, if_neg (fun hempty => h (List.isEmpty_iff.1 hempty)), spaced,
      List.flatMap_singleton]

/-- The changes that a text makes in the table it stands for. -/
theorem exists_contents {members : List (String × Toml)} (hheld : Held (.table members)) :
    ∃ root₁ root, finishMembers root = ownMembers members ++ headedMembers members ∧
      perform ((ownChanges members).map (within [])) [] = some root₁ ∧
      perform ((memberChanges members).map (within [])) root₁ = some root := by
  obtain ⟨root, hfinish, hperform⟩ := (perform_memberChanges members hheld.2
    (nodup_members hheld.1).of_append_right).contents hheld.1
  rw [perform_append, Option.bind_eq_some_iff] at hperform
  obtain ⟨root₁, hown, hsections⟩ := hperform
  exact ⟨root₁, root, hfinish, by rwa [within_nil], by rwa [within_nil]⟩

/-- The lines before the first header make their changes. -/
theorem leads_first {members : List (String × Toml)} {root₁ : Members}
    (hheld : MembersHeld members) (hfits : OwnFit members)
    (h : perform ((ownChanges members).map (within [])) [] = some root₁) :
    Leads [] [] (spaced (if (ownLines members).isEmpty then [] else [ownLines members])) []
      root₁ := by
  rw [spaced_ownLines]
  split
  · next hempty =>
    rw [(ownMembers_of_ownLines hempty).2] at h
    cases h
    exact .refl [] []
  · exact (leads_empty [] []).trans (leads_ownLines hheld hfits h)

/-- The text of a table, an empty line before each of its parts. -/
theorem leads_render {members : List (String × Toml)} (hheld : Held (.table members))
    (hfits : FitsUnder 0 (.table members)) :
    ∃ path root, finishMembers root = ownMembers members ++ headedMembers members ∧
      Leads [] [] (spaced (textParts members)) path root := by
  obtain ⟨root₁, root, hfinish, hown, hsections⟩ := exists_contents hheld
  obtain ⟨path, hleads⟩ := performs_members members hheld.2 (p := []) hfits.2.2 [] root₁ root
    hsections
  refine ⟨path, root, hfinish, ?_⟩
  rw [textParts, spaced, List.flatMap_append]
  exact (leads_first hheld.2 hfits.2.1 hown).trans hleads

/-- Parts after others have an empty line before each of them. -/
theorem spaced_eq {parts : List (List Char)} (hne : parts ≠ []) :
    spaced parts = '\n' :: List.intercalate ['\n'] parts := by
  induction parts with
  | nil => exact absurd rfl hne
  | cons part parts ih =>
      cases parts with
      | nil => simp [spaced]
      | cons part' parts =>
          have hrest := ih (by simp)
          rw [spaced] at hrest ⊢
          rw [List.flatMap_cons, hrest, List.intercalate_cons_cons]
          simp

/-- What leads to the end of a text reads it. -/
theorem readLines_of_leads {parts : List (List Char)} {path : List String} {root : Members}
    (h : Leads [] [] (spaced parts) path root) :
    readLines [] [] ((List.intercalate ['\n'] parts).length + 1) (List.intercalate ['\n'] parts) =
      some root := by
  by_cases hne : parts = []
  · subst hne
    obtain ⟨fuel, hfuel, heq⟩ := h 1 [] (by simp [spaced])
    obtain ⟨fuel, rfl⟩ := Nat.exists_eq_succ_of_ne_zero (Nat.ne_zero_of_lt hfuel)
    exact heq
  · rw [spaced_eq hne] at h
    obtain ⟨fuel, hfuel, heq⟩ := h ((List.intercalate ['\n'] parts).length + 2) [] (by simp)
    obtain ⟨fuel, rfl⟩ := Nat.exists_eq_succ_of_ne_zero (Nat.ne_zero_of_lt hfuel)
    rw [List.append_nil] at heq
    exact heq

mutual

/-- A section begins with a bracket. -/
theorem head?_sections (v : Toml) (element : Bool) (path : List String) :
    ∀ part ∈ sections element path v, part.head? = some '[' := by
  cases v with
  | string | integer | float | bool | date => simp [sections]
  | array items =>
      rw [sections]
      exact head?_elementSections items path
  | table members =>
      intro part hpart
      rw [sections, List.mem_append] at hpart
      rcases hpart with hpart | hpart
      · split at hpart
        · rw [List.mem_singleton] at hpart
          rw [hpart]
          cases element <;> rfl
        · cases hpart
      · exact head?_memberSections members path part hpart

/-- Each section of a member begins with a header. -/
theorem head?_memberSections (members : List (String × Toml)) (path : List String) :
    ∀ part ∈ memberSections path members, part.head? = some '[' := by
  cases members with
  | nil => simp [memberSections]
  | cons m members =>
      obtain ⟨k, v⟩ := m
      intro part hpart
      rw [memberSections, List.mem_append] at hpart
      rcases hpart with hpart | hpart
      · split at hpart
        · exact head?_sections v false (path ++ [k]) part hpart
        · cases hpart
      · exact head?_memberSections members path part hpart

/-- Each section of an element begins with a header. -/
theorem head?_elementSections (items : List Toml) (path : List String) :
    ∀ part ∈ elementSections path items, part.head? = some '[' := by
  cases items with
  | nil => simp [elementSections]
  | cons v items =>
      intro part hpart
      rw [elementSections, List.mem_append] at hpart
      rcases hpart with hpart | hpart
      · exact head?_sections v true path part hpart
      · exact head?_elementSections items path part hpart

end

/-- The lines of members begin as keys do. -/
theorem head?_ownLines {members : List (String × Toml)} {c : Char} (hbare : isBare c = false)
    (hquotes : c ∉ ['"', '\'']) : (ownLines members).head? ≠ some c := by
  induction members with
  | nil => simp [ownLines]
  | cons m members ih =>
      obtain ⟨k, v⟩ := m
      rw [ownLines]
      split
      · exact ih
      · rw [List.append_assoc, List.append_assoc, List.append_assoc]
        exact keyForm_head?_ne k hbare hquotes _

/-- A text does not begin with a mark of byte order. -/
theorem text_ne_mark (members : List (String × Toml)) (cs : List Char) :
    List.intercalate ['\n'] (textParts members) ≠ '\uFEFF' :: cs := by
  intro htext
  cases hparts : textParts members with
  | nil =>
      rw [hparts] at htext
      cases htext
  | cons part parts =>
      have hpart : part ∈ textParts members := by rw [hparts]; exact List.mem_cons_self
      have hhead : part ≠ [] ∧ part.head? ≠ some '\uFEFF' := by
        rw [textParts, List.mem_append] at hpart
        rcases hpart with hpart | hpart
        · split at hpart
          · cases hpart
          · next hne =>
            rw [List.mem_singleton] at hpart
            rw [hpart]
            exact ⟨fun h => hne (List.isEmpty_iff.2 h), head?_ownLines (by decide) (by decide)⟩
        · have hbracket := head?_memberSections members [] part hpart
          refine ⟨?_, by rw [hbracket]; decide⟩
          rintro rfl
          cases hbracket
      obtain ⟨rest, hrest⟩ : ∃ rest, List.intercalate ['\n'] (part :: parts) = part ++ rest := by
        cases parts with
        | nil => exact ⟨[], by simp⟩
        | cons part' parts => exact ⟨_, by rw [List.intercalate_cons_cons, List.append_assoc]⟩
      rw [hparts, hrest] at htext
      refine hhead.2 ?_
      rw [← List.head?_append_of_ne_nil part hhead.1, htext]
      rfl

/-- What is read of the text of a table. -/
theorem parse?_render_eq (members : List (String × Toml)) :
    parse? (render members) = (readLines [] []
      ((List.intercalate ['\n'] (textParts members)).length + 1)
      (List.intercalate ['\n'] (textParts members))).map fun ms => .table (finishMembers ms) := by
  rw [parse?, render_eq, String.toList_ofList]
  split
  · next cs heq => exact absurd heq (text_ne_mark members cs)
  · rfl

/-- **The text of a table is read back**, unless its headers have too many parts or its values too
many brackets. -/
theorem parse?_render {members : List (String × Toml)} (hheld : Held (.table members))
    (hfits : FitsUnder 0 (.table members)) :
    parse? (render members) = some (arranged (.table members)) := by
  obtain ⟨path, root, hfinish, hleads⟩ := leads_render hheld hfits
  rw [parse?_render_eq, readLines_of_leads hleads, Option.map_some, hfinish]
  rfl

end Scenarist.Toml
