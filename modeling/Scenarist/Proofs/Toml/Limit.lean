import Scenarist.Proofs.Toml.Table

/-!
# What Is Too Deep Is Not Read

The reader follows 79 brackets inside each other and 79 parts of a key, no more. What was written is
read back if it keeps to that (`parse?_render`), and this module shows the converse: a single value
with deeper brackets, or a single header with more parts, and the whole text is refused.

A value that does not fit is refused inside so many brackets that just one more would be read
(`refused_of_not_fitsIn`), and an array or a table with a refused value in it is refused. On the
level of lines, a line with such a value or such a header `Breaks` the reading wherever the reader
gets that far. It does get that far, as the lines before it can all be read.

## Main results

* `refused_of_not_fitsIn`: a value whose brackets are too deep is refused.
* `refuses_sections`: the sections of a member that does not fit are refused.
* `isSome_parse?_render`: **the text of a table is read exactly if it fits**.
* `fitsUnder_table`: what fits, member by member.
-/

namespace Scenarist.Toml

open Node (Fresh within addDotted)

variable {rest : List Char}

/-! ### Values -/

/-- The value is **refused** inside so many brackets, whatever follows it. -/
def Refused (v : Toml) (depth : Nat) : Prop :=
  ∀ fuel rest, (valueForm v).length < fuel → Stops rest →
    value fuel depth (valueForm v ++ rest) = none

section

variable {v : Toml} {depth fuel : Nat} {cs : List Char}

/-- Nothing is read of an array whose next item is refused. -/
theorem arrayItems_refused (hv : Held v) (hrefused : Refused v depth)
    (hfuel : (valueForm v).length < fuel) (acc : List Toml)
    (hcs : dropVoid (cs.length + 1) cs = some (valueForm v ++ rest)) (hstops : Stops rest) :
    arrayItems (fuel + 1) depth acc cs = none := by
  obtain ⟨c, tail, htail, -, hclose⟩ := valueForm_head hv
  have hvalue := hrefused fuel rest hfuel hstops
  rw [arrayItems, hcs]
  dsimp only [Option.bind_eq_bind, Option.bind_some]
  split
  · next heq =>
    rw [htail] at heq
    exact absurd (List.cons.inj heq).1 hclose
  · rw [hvalue]
    rfl

/-- An array is refused if one of its items is, whatever was read before it. -/
theorem arrayItems_itemLines_refused {items : List Toml}
    (hitems : ∀ v ∈ items, Held v ∧ (ReadsBack v depth ∨ Refused v depth))
    (hsome : ∃ v ∈ items, Refused v depth) (hfuel : (itemLines items).length < fuel)
    (acc : List Toml) : arrayItems fuel depth acc (itemLines items ++ cs) = none := by
  induction items generalizing fuel acc with
  | nil => simp at hsome
  | cons v items ih =>
      obtain ⟨fuel, rfl⟩ := Nat.exists_eq_succ_of_ne_zero (Nat.ne_zero_of_lt hfuel)
      obtain ⟨hv, hread⟩ := hitems v List.mem_cons_self
      have hlength := length_itemLines_cons v items
      by_cases hrefused : Refused v depth
      · exact arrayItems_refused hv hrefused (by omega) acc (dropVoid_itemLines hv items cs)
          (stops_cons (by decide) _)
      · have hsome' : ∃ v ∈ items, Refused v depth := by
          obtain ⟨w, hw, hwr⟩ := hsome
          rcases List.mem_cons.1 hw with rfl | hw
          · exact absurd hwr hrefused
          · exact ⟨w, hw, hwr⟩
        rw [arrayItems_item hv (hread.resolve_right hrefused) (by omega) acc
          (dropVoid_itemLines hv items cs)]
        exact ih (fun w hw => hitems w (List.mem_cons_of_mem v hw)) hsome' (by omega) _

/-- Nothing is read of a table whose next member is refused. -/
theorem tableMembers_refused {k : String} (hv : Held v) (hrefused : Refused v depth)
    (hfuel : (valueForm v).length < fuel) (acc : Members)
    (hcs : dropBlanks cs = keyForm k ++ ' ' :: '=' :: ' ' :: (valueForm v ++ rest))
    (hstops : Stops rest) : tableMembers (fuel + 1) depth acc cs = none := by
  have hequals : after? '=' ('=' :: ' ' :: (valueForm v ++ rest)) =
      some (' ' :: (valueForm v ++ rest)) := rfl
  rw [tableMembers, keyPath_equals k _ hcs]
  dsimp only [Option.bind_eq_bind, Option.bind_some]
  rw [hequals]
  dsimp only [Option.bind_some]
  rw [dropBlanks_value hv, hrefused fuel rest hfuel hstops]
  rfl

/-- A table on a line is refused if the value of one of its members is, whatever was read before
it. -/
theorem tableMembers_memberForms_refused {k : String} {members : List (String × Toml)}
    (hmembers : ∀ m ∈ (k, v) :: members, Held m.2 ∧ (ReadsBack m.2 depth ∨ Refused m.2 depth))
    (hsome : ∃ m ∈ (k, v) :: members, Refused m.2 depth) {acc : Members}
    (hfresh : (acc.map Prod.fst ++ k :: members.map Prod.fst).Nodup)
    (hfuel : (valueForm v).length + (memberForms false members).length + 1 < fuel)
    (hcs : dropBlanks cs = keyForm k ++ ' ' :: '=' :: ' ' ::
      (valueForm v ++ (memberForms false members ++ ' ' :: rest))) :
    tableMembers fuel depth acc cs = none := by
  induction members generalizing k v fuel acc cs with
  | nil =>
      obtain ⟨fuel, rfl⟩ := Nat.exists_eq_succ_of_ne_zero (Nat.ne_zero_of_lt hfuel)
      have hv : Held v := (hmembers (k, v) List.mem_cons_self).1
      have hrefused : Refused v depth := by simpa using hsome
      have hshort : (valueForm v).length < fuel := by omega
      exact tableMembers_refused hv hrefused hshort acc hcs (stops_cons (by decide) _)
  | cons m members ih =>
      obtain ⟨k', v'⟩ := m
      obtain ⟨fuel, rfl⟩ := Nat.exists_eq_succ_of_ne_zero (Nat.ne_zero_of_lt hfuel)
      obtain ⟨hv, hread⟩ : Held v ∧ (ReadsBack v depth ∨ Refused v depth) :=
        hmembers (k, v) List.mem_cons_self
      have hlength := length_memberForms_cons k' v' members
      have hshort : (valueForm v).length < fuel := by omega
      rw [memberForms_cons_append] at hcs
      by_cases hrefused : Refused v depth
      · exact tableMembers_refused hv hrefused hshort acc hcs (stops_cons (by decide) _)
      · have hsome' : ∃ m ∈ (k', v') :: members, Refused m.2 depth := by
          obtain ⟨m, hm, hmr⟩ := hsome
          rcases List.mem_cons.1 hm with rfl | hm
          · exact absurd hmr hrefused
          · exact ⟨m, hm, hmr⟩
        have hkey : Fresh k acc := fun hmem =>
          (List.nodup_append.1 hfresh).2.2 k hmem k List.mem_cons_self rfl
        rw [(tableMembers_member hv (hread.resolve_right hrefused) hshort hkey hcs
          (stops_cons (by decide) _)).1 (List.dropWhile_cons_of_neg (by decide))]
        exact ih (fun m hm => hmembers m (List.mem_cons_of_mem _ hm)) hsome'
          (by simpa using hfresh) (by omega) (dropBlanks_key k' _)

end

/-- An array with a refused item is refused. -/
theorem refused_array {items : List Toml} {depth : Nat}
    (hitems : ∀ v ∈ items, Held v ∧ (ReadsBack v (depth + 1) ∨ Refused v (depth + 1)))
    (hsome : ∃ v ∈ items, Refused v (depth + 1)) : Refused (.array items) depth := by
  intro fuel rest hfuel hstops
  obtain ⟨fuel, rfl⟩ := Nat.exists_eq_succ_of_ne_zero (Nat.ne_zero_of_lt hfuel)
  have hopen (cs : List Char) (h : arrayItems fuel (depth + 1) [] cs = none) :
      value (fuel + 1) depth ('[' :: cs) = none := by
    rw [value, h, ite_self]
  obtain _ | ⟨v, _ | ⟨w, items⟩⟩ := items
  · simp at hsome
  · have hrefused : Refused v (depth + 1) := by simpa using hsome
    have hv := (hitems v List.mem_cons_self).1
    have hlength : (valueForm (.array [v])).length = (valueForm v).length + 2 := by
      simp [valueForm]
    obtain ⟨fuel, rfl⟩ : ∃ k, fuel = k + 1 := Nat.exists_eq_succ_of_ne_zero (by omega)
    rw [valueForm, List.cons_append, List.cons_append, List.append_assoc]
    exact hopen _ (arrayItems_refused hv hrefused (by omega) []
      ((inked_valueForm hv _).dropVoid_eq _) (stops_cons (by decide) _))
  · rw [valueForm_array, List.length_cons, List.length_append] at hfuel
    rw [valueForm_array, List.cons_append, List.append_assoc]
    exact hopen _ (arrayItems_itemLines_refused hitems hsome (by omega) [])

/-- A table with a refused member is refused. -/
theorem refused_table {members : List (String × Toml)} {depth : Nat}
    (hkeys : (members.map Prod.fst).Nodup)
    (hmembers : ∀ m ∈ members, Held m.2 ∧ (ReadsBack m.2 (depth + 1) ∨ Refused m.2 (depth + 1)))
    (hsome : ∃ m ∈ members, Refused m.2 (depth + 1)) : Refused (.table members) depth := by
  intro fuel rest hfuel hstops
  obtain ⟨fuel, rfl⟩ := Nat.exists_eq_succ_of_ne_zero (Nat.ne_zero_of_lt hfuel)
  cases members with
  | nil => simp at hsome
  | cons m members =>
      obtain ⟨k, v⟩ := m
      have htext : valueForm (.table ((k, v) :: members)) ++ rest =
          '\x7b' :: ' ' :: (keyForm k ++ ' ' :: '=' :: ' ' ::
            (valueForm v ++ (memberForms false members ++ ' ' :: '\x7d' :: rest))) := by
        simp [valueForm_table]
      have hlength : (valueForm (.table ((k, v) :: members))).length =
          (keyForm k).length + (valueForm v).length + (memberForms false members).length + 7 := by
        simp [valueForm_table]
        omega
      have hread : tableMembers fuel (depth + 1) [] (keyForm k ++ ' ' :: '=' :: ' ' ::
          (valueForm v ++ (memberForms false members ++ ' ' :: '\x7d' :: rest))) = none :=
        tableMembers_memberForms_refused hmembers hsome hkeys (by omega)
          (inked_keyForm k _).dropBlanks_eq
      rw [htext, value]
      split
      · rfl
      · rw [dropBlanks_key]
        split
        · next heq =>
          exact absurd (congrArg List.head? heq)
            (keyForm_head?_ne k (d := '\x7d') (by decide) (by decide) _)
        · exact hread

/-- **A value whose brackets are too deep is refused.** -/
theorem refused_of_not_fitsIn {v : Toml} (h : Held v) {n depth : Nat} (hdeep : ¬ FitsIn n v)
    (hdepth : depth + n + 1 = depthLimit) : Refused v depth := by
  induction n generalizing v depth with
  | zero =>
      intro fuel rest hfuel hstops
      obtain ⟨fuel, rfl⟩ := Nat.exists_eq_succ_of_ne_zero (Nat.ne_zero_of_lt hfuel)
      have hlimit : depthLimit ≤ depth + 1 := by omega
      cases v with
      | string | integer | float | bool | date => exact absurd trivial hdeep
      | array items =>
          have hopen (cs : List Char) : value (fuel + 1) depth ('[' :: cs) = none := by
            rw [value, if_pos hlimit]
          obtain _ | ⟨v, _ | ⟨w, items⟩⟩ := items <;> exact hopen _
      | table members =>
          have hopen (cs : List Char) : value (fuel + 1) depth ('\x7b' :: cs) = none := by
            rw [value, if_pos hlimit]
          cases members <;> exact hopen _
  | succ n ih =>
      have hinner : depth + 1 + n + 1 = depthLimit := by omega
      have heither (v : Toml) (hv : Held v) : ReadsBack v (depth + 1) ∨ Refused v (depth + 1) := by
        by_cases hfits : FitsIn n v
        · exact .inl (readsBack_of_held hv hfits (by omega))
        · exact .inr (ih hv hfits hinner)
      cases v with
      | string | integer | float | bool | date => exact absurd trivial hdeep
      | array items =>
          have hheld := itemsHeld_iff.1 h
          have hsome : ∃ v ∈ items, ¬ FitsIn n v := by
            by_contra hall
            exact hdeep fun v hv => by_contra fun hv' => hall ⟨v, hv, hv'⟩
          obtain ⟨v, hv, hv'⟩ := hsome
          exact refused_array (fun w hw => ⟨hheld w hw, heither w (hheld w hw)⟩)
            ⟨v, hv, ih (hheld v hv) hv' hinner⟩
      | table members =>
          have hheld := membersHeld_iff.1 h.2
          have hsome : ∃ m ∈ members, ¬ FitsIn n m.2 := by
            by_contra hall
            exact hdeep fun m hm => by_contra fun hm' => hall ⟨m, hm, hm'⟩
          obtain ⟨m, hm, hm'⟩ := hsome
          exact refused_table h.1 (fun m hm => ⟨hheld m hm, heither m.2 (hheld m hm)⟩)
            ⟨m, hm, ih (hheld m hm) hm' hinner⟩

/-! ### Headers -/

/-- Nothing is read of a key with too many parts. -/
theorem key_pathForm_eq_none {path : List String} {fuel : Nat} (h : fuel < path.length)
    {cs : List Char} (hcs : dropBlanks cs = pathForm path ++ rest) : key fuel cs = none := by
  induction fuel generalizing path cs with
  | zero => rfl
  | succ fuel ih =>
      match path with
      | [] => cases h
      | [_] => simp at h
      | k :: l :: path =>
          have htext : pathForm (k :: l :: path) ++ rest =
              keyForm k ++ '.' :: (pathForm (l :: path) ++ rest) := by
            simp [pathForm, List.intercalate_cons_cons]
          have hpoint : dropBlanks ('.' :: (pathForm (l :: path) ++ rest)) =
              '.' :: (pathForm (l :: path) ++ rest) := List.dropWhile_cons_of_neg (by decide)
          have hrest : key fuel (pathForm (l :: path) ++ rest) = none :=
            ih (Nat.lt_of_succ_lt_succ h) (inked_pathForm (by simp) rest).dropBlanks_eq
          rw [key, hcs, htext, keyPart_keyForm k (by rintro c ⟨⟩; decide)]
          dsimp only [Option.bind_eq_bind, Option.bind_some]
          rw [hpoint]
          change (key fuel (pathForm (l :: path) ++ rest)).bind _ = _
          rw [hrest]
          rfl

/-- Nothing is read of a header with too many parts. -/
theorem keyPath_header_eq_none {p : List String} (h : depthLimit - 1 < p.length)
    (rest : List Char) : keyPath (pathForm p ++ ']' :: rest) = none := by
  have hne : p ≠ [] := by
    rintro rfl
    cases h
  exact key_pathForm_eq_none h (inked_pathForm hne _).dropBlanks_eq

/-! ### Lines -/

/-- The text **breaks** the reading: nothing that begins with it is read. -/
def Breaks (path : List String) (root : Members) (text : List Char) : Prop :=
  ∀ fuel rest, (text ++ rest).length < fuel → readLines path root fuel (text ++ rest) = none

section

variable {path path' : List String} {root root' : Members} {text text' : List Char}

/-- A text breaks the reading if nothing is read at its beginning. -/
theorem breaks_of_step
    (h : ∀ fuel rest, readLines path root (fuel + 1) (text ++ rest) = none) :
    Breaks path root text := by
  intro fuel rest hfuel
  obtain ⟨fuel, rfl⟩ := Nat.exists_eq_succ_of_ne_zero (Nat.ne_zero_of_lt hfuel)
  exact h fuel rest

/-- A text that breaks the reading does so with more text behind it. -/
theorem Breaks.append (h : Breaks path root text) (text' : List Char) :
    Breaks path root (text ++ text') := by
  intro fuel rest hfuel
  rw [List.append_assoc] at hfuel ⊢
  exact h fuel (text' ++ rest) hfuel

/-- A text breaks the reading if it leads to one that does. -/
theorem Leads.breaks (h : Leads path root text path' root') (h' : Breaks path' root' text') :
    Breaks path root (text ++ text') := by
  intro fuel rest hfuel
  rw [List.append_assoc] at hfuel ⊢
  obtain ⟨fuel', hfuel', heq⟩ := h fuel (text' ++ rest) hfuel
  exact heq.trans (h' fuel' rest hfuel')

/-- The line of a member whose brackets are too deep breaks the reading. -/
theorem breaks_member {k : String} {v : Toml} (hv : Held v) (hdeep : ¬ FitsIn (depthLimit - 1) v) :
    Breaks path root (keyForm k ++ " = ".toList ++ valueForm v ++ ['\n']) := by
  refine breaks_of_step fun fuel rest => ?_
  have hrefused : Refused v 0 := refused_of_not_fitsIn hv hdeep (by decide)
  rw [readLines_member hv, hrefused _ _ (by omega) (stops_cons (by decide) rest)]
  rfl

/-- A header with too many parts breaks the reading. -/
theorem breaks_header {p : List String} (hparts : depthLimit - 1 < p.length) (element : Bool) :
    Breaks path root (headerLine element p) := by
  refine breaks_of_step fun fuel rest => ?_
  have hne : p ≠ [] := by
    rintro rfl
    cases hparts
  cases element with
  | true =>
      rw [headerLine_element, readLines_element, keyPath_header_eq_none hparts]
      rfl
  | false =>
      have hhead (cs : List Char) : (pathForm p ++ cs).head? ≠ some '[' :=
        pathForm_head?_ne hne (by decide) (by decide) cs
      rw [headerLine_table, readLines_table fuel (hhead _), keyPath_header_eq_none hparts]
      rfl

/-- The lines of a table's own members break the reading if one of their values does. -/
theorem breaks_ownLines {members : List (String × Toml)} (hheld : MembersHeld members)
    (hdeep : ¬ OwnFit members)
    (h : perform ((ownChanges members).map (within path)) root = some root') :
    Breaks path root (ownLines members) := by
  induction members generalizing root with
  | nil => exact absurd (fun _ hm => absurd hm List.not_mem_nil) hdeep
  | cons m members ih =>
      obtain ⟨k, v⟩ := m
      obtain ⟨hv, hheld⟩ := hheld
      rw [OwnFit, List.forall_mem_cons, not_and_or] at hdeep
      rw [ownChanges] at h
      rw [ownLines]
      by_cases hheader : hasHeader v = true
      · rw [if_pos hheader] at h ⊢
        exact ih hheld (hdeep.resolve_left fun hne => hne (by simp [hheader])) h
      · rw [if_neg hheader] at h ⊢
        rw [List.map_cons, perform, Option.bind_eq_some_iff] at h
        obtain ⟨root₁, hfirst, hrest⟩ := h
        by_cases hfits : FitsIn (depthLimit - 1) v
        · exact (leads_member hv hfits hfirst).breaks
            (ih hheld (hdeep.resolve_left fun hne => hne fun _ => hfits) hrest)
        · exact (breaks_member hv hfits).append _

/-! ### Sections -/

/-- The text **refuses** the changes inside the table at a path: it breaks the reading though they
could be made. -/
def Refuses (p : List String) (text : List Char) (fs : List Change) : Prop :=
  ∀ path root root', perform (fs.map (within p)) root = some root' → Breaks path root text

variable {p : List String} {k : String} {fs gs : List Change}

/-- A text that refuses changes refuses more of them with more text behind it. -/
theorem Refuses.append (h : Refuses p text fs) (text' : List Char) (gs : List Change) :
    Refuses p (text ++ text') (fs ++ gs) := by
  intro path root root'' hperform
  rw [List.map_append, perform_append, Option.bind_eq_some_iff] at hperform
  obtain ⟨root', hfirst, -⟩ := hperform
  exact (h path root root' hfirst).append text'

/-- Changes that are performed may come before changes that are refused. -/
theorem Performs.refuses (h : Performs p text fs) (h' : Refuses p text' gs) :
    Refuses p (text ++ text') (fs ++ gs) := by
  intro path root root'' hperform
  rw [List.map_append, perform_append, Option.bind_eq_some_iff] at hperform
  obtain ⟨root', hfirst, hsecond⟩ := hperform
  obtain ⟨path', hleads⟩ := h path root root' hfirst
  exact hleads.breaks (h' path' root' root'' hsecond)

/-- The changes of a table are refused inside the table around it. -/
theorem Refuses.nested (h : Refuses (p ++ [k]) text fs) :
    Refuses p text (fs.map (within [k])) := by
  intro path root root' hperform
  rw [map_within_map] at hperform
  exact h path root root' hperform

/-- The section of a table with too long a header, or too deep a value, is refused. -/
theorem refuses_section {element : Bool} {members : List (String × Toml)}
    (hheld : MembersHeld members) (hdeep : ¬ (p.length + 1 ≤ depthLimit - 1 ∧ OwnFit members)) :
    Refuses p ('\n' :: (headerLine element (p ++ [k]) ++ ownLines members))
      (opening element k :: (ownChanges members).map (within [k])) := by
  intro path root root' h
  rw [List.map_cons, perform, Option.bind_eq_some_iff] at h
  obtain ⟨root₁, hopen, hown⟩ := h
  rw [map_within_map] at hown
  refine (leads_empty path root).breaks ?_
  by_cases hparts : p.length + 1 ≤ depthLimit - 1
  · exact (leads_header hparts hopen).breaks
      (breaks_ownLines hheld (fun hfits => hdeep ⟨hparts, hfits⟩) hown)
  · exact (breaks_header (by rw [List.length_append]; exact not_le.1 hparts) element).append _

end

/-- What is written under headers and fits has no header with too many parts. -/
theorem FitsUnder.parts_le {v : Toml} {parts : Nat} (hheader : hasHeader v = true)
    (h : FitsUnder parts v) : parts ≤ depthLimit - 1 := by
  match v with
  | .table _ => exact h.1
  | .array (.table _ :: _) => exact h.1.1
  | .array [] => cases hheader
  | .array (.string _ :: _) | .array (.integer _ :: _) | .array (.float _ :: _)
  | .array (.bool _ :: _) | .array (.date _ :: _) | .array (.array _ :: _) => cases hheader
  | .string _ | .integer _ | .float _ | .bool _ | .date _ => cases hheader

/-- Without lines of their own, members have none that could be too deep. -/
theorem ownFit_of_ownLines {members : List (String × Toml)} (h : ownLines members = []) :
    OwnFit members := by
  intro m hm hheader
  rw [hasHeader_of_ownLines h m hm] at hheader
  cases hheader

mutual

/-- **The sections of a member that does not fit are refused.** -/
theorem refuses_sections (v : Toml) (hheld : Held v) {p : List String} (k : String)
    (element : Bool) (hdeep : ¬ FitsUnder (p.length + 1) v) :
    Refuses p (spaced (sections element (p ++ [k]) v)) (sectionChanges element k v) := by
  cases v with
  | string | integer | float | bool | date => exact absurd trivial hdeep
  | array items => exact refuses_elements items hheld k hdeep
  | table members =>
      have hmembers (h : ¬ HeadedFit (p.length + 1) members) :=
        (refuses_members members hheld.2 (p := p ++ [k])
          (by rw [List.length_append]; exact h)).nested
      rw [sections, sectionChanges, spaced, List.flatMap_append]
      split
      · rw [List.flatMap_singleton]
        by_cases hfits : p.length + 1 ≤ depthLimit - 1 ∧ OwnFit members
        · exact (performs_section hheld.2 hfits.2 hfits.1).refuses
            (hmembers fun hheaded => hdeep ⟨hfits.1, hfits.2, hheaded⟩)
        · exact (refuses_section hheld.2 hfits).append _ _
      · next hown =>
        -- Without a header of its own the table has one of a member, which has more parts.
        simp only [Bool.or_eq_true, not_or, Bool.not_eq_true', Bool.not_eq_false,
          List.isEmpty_iff] at hown
        refine (performs_nil p).refuses (hmembers fun hheaded => hdeep ⟨?_, ?_, hheaded⟩)
        · obtain ⟨⟨k', w⟩, members, rfl⟩ := List.exists_cons_of_ne_nil hown.1.2
          have hheader := hasHeader_of_ownLines hown.2 (k', w) List.mem_cons_self
          exact Nat.le_of_succ_le ((hheaded.1 hheader).parts_le hheader)
        · exact ownFit_of_ownLines hown.2

/-- **The sections of members refuse their changes** if the members do not fit. -/
theorem refuses_members (members : List (String × Toml)) (hheld : MembersHeld members)
    {p : List String} (hdeep : ¬ HeadedFit p.length members) :
    Refuses p (spaced (memberSections p members)) (memberChanges members) := by
  cases members with
  | nil => exact absurd trivial hdeep
  | cons m members =>
      obtain ⟨k, v⟩ := m
      rw [HeadedFit, not_and_or] at hdeep
      rw [memberSections, memberChanges, spaced, List.flatMap_append]
      by_cases hheader : hasHeader v = true
      · rw [if_pos hheader, if_pos hheader]
        by_cases hfits : FitsUnder (p.length + 1) v
        · exact (performs_sections v hheld.1 k false hfits).refuses
            (refuses_members members hheld.2 (hdeep.resolve_left fun hne => hne fun _ => hfits))
        · exact (refuses_sections v hheld.1 k false hfits).append _ _
      · rw [if_neg hheader, if_neg hheader]
        exact (performs_nil p).refuses (refuses_members members hheld.2
          (hdeep.resolve_left fun hne => hne fun hheader' => absurd hheader' hheader))

/-- **The sections of the elements of an array refuse their changes** if the elements do not fit. -/
theorem refuses_elements (items : List Toml) (hheld : ItemsHeld items) {p : List String}
    (k : String) (hdeep : ¬ ElementsFit (p.length + 1) items) :
    Refuses p (spaced (elementSections (p ++ [k]) items)) (elementChanges k items) := by
  cases items with
  | nil => exact absurd trivial hdeep
  | cons v items =>
      rw [ElementsFit, not_and_or] at hdeep
      rw [elementSections, elementChanges, spaced, List.flatMap_append]
      by_cases hfits : FitsUnder (p.length + 1) v
      · exact (performs_sections v hheld.1 k true hfits).refuses
          (refuses_elements items hheld.2 k (hdeep.resolve_left fun hne => hne hfits))
      · exact (refuses_sections v hheld.1 k true hfits).append _ _

end

/-! ### Texts -/

/-- The text of a table that does not fit breaks the reading. -/
theorem breaks_render {members : List (String × Toml)} (hheld : Held (.table members))
    (hdeep : ¬ FitsUnder 0 (.table members)) : Breaks [] [] (spaced (textParts members)) := by
  obtain ⟨root₁, root, -, hown, hsections⟩ := exists_contents hheld
  rw [textParts, spaced, List.flatMap_append]
  by_cases hfits : OwnFit members
  · exact (leads_first hheld.2 hfits hown).breaks (refuses_members members hheld.2 (p := [])
      (fun hheaded => hdeep ⟨Nat.zero_le _, hfits, hheaded⟩) [] root₁ root hsections)
  · have hne : ownLines members ≠ [] := fun h => hfits (ownFit_of_ownLines h)
    have hlines := spaced_ownLines members
    rw [if_neg hne, spaced] at hlines
    rw [hlines]
    exact ((leads_empty [] []).breaks (breaks_ownLines hheld.2 hfits hown)).append _

/-- **What the text of a table is read as**: nothing, if its headers have too many parts or its
values too many brackets. -/
theorem parse?_render_eq_none {members : List (String × Toml)} (hheld : Held (.table members))
    (hdeep : ¬ FitsUnder 0 (.table members)) : parse? (render members) = none := by
  have hbreaks := breaks_render hheld hdeep
  suffices h : readLines [] [] ((List.intercalate ['\n'] (textParts members)).length + 1)
      (List.intercalate ['\n'] (textParts members)) = none by
    rw [parse?_render_eq, h, Option.map_none]
  by_cases hne : textParts members = []
  · rw [hne] at hbreaks ⊢
    exact hbreaks 1 [] (by simp [spaced])
  · rw [spaced_eq hne] at hbreaks
    have hread := hbreaks ((List.intercalate ['\n'] (textParts members)).length + 2) []
      (by simp)
    rw [List.append_nil] at hread
    exact hread

/-- The text of a table is read exactly if it fits. -/
theorem isSome_parse?_render {members : List (String × Toml)} (hheld : Held (.table members)) :
    (parse? (render members)).isSome = true ↔ FitsUnder 0 (.table members) := by
  refine ⟨fun hsome => ?_, fun hfits => by rw [parse?_render hheld hfits]; rfl⟩
  by_contra hdeep
  rw [parse?_render_eq_none hheld hdeep] at hsome
  cases hsome

/-! ### What fits -/

/-- A member **fits** in the table under a header with so many parts: under headers of its own, or
on a line. -/
def MemberFits (parts : Nat) (v : Toml) : Prop :=
  if hasHeader v = true then FitsUnder (parts + 1) v else FitsIn (depthLimit - 1) v

/-- A table fits if its own header does and its members fit in it. -/
theorem fitsUnder_table {parts : Nat} {members : List (String × Toml)} :
    FitsUnder parts (.table members) ↔
      parts ≤ depthLimit - 1 ∧ ∀ m ∈ members, MemberFits parts m.2 := by
  have hheaded : HeadedFit parts members ↔
      ∀ m ∈ members, hasHeader m.2 = true → FitsUnder (parts + 1) m.2 := by
    induction members with
    | nil => simp [HeadedFit]
    | cons m members ih => rw [HeadedFit, ih, List.forall_mem_cons]
  rw [FitsUnder, OwnFit, hheaded]
  refine and_congr_right fun _ =>
    ⟨fun h m hm => ?_, fun h => ⟨fun m hm hown => ?_, fun m hm hheader => ?_⟩⟩
  · rw [MemberFits]
    split
    · next hheader => exact h.2 m hm hheader
    · next hheader => exact h.1 m hm (Bool.eq_false_iff.2 hheader)
  · have hfits := h m hm
    rwa [MemberFits, if_neg (by simp [hown])] at hfits
  · have hfits := h m hm
    rwa [MemberFits, if_pos hheader] at hfits

section

variable (parts : Nat)

/-- A text is never too deep. -/
@[simp]
theorem memberFits_string (s : String) : MemberFits parts (.string s) := trivial

/-- A whole number is never too deep. -/
@[simp]
theorem memberFits_integer (n : Int) : MemberFits parts (.integer n) := trivial

/-- A number is never too deep. -/
@[simp]
theorem memberFits_float (x : Double) : MemberFits parts (.float x) := trivial

/-- A truth value is never too deep. -/
@[simp]
theorem memberFits_bool (b : Bool) : MemberFits parts (.bool b) := trivial

/-- A table fits if its header has not too many parts and its members fit under it. -/
@[simp]
theorem memberFits_table {members : List (String × Toml)} :
    MemberFits parts (.table members) ↔
      parts + 1 ≤ depthLimit - 1 ∧ ∀ m ∈ members, MemberFits (parts + 1) m.2 :=
  fitsUnder_table

end

end Scenarist.Toml
