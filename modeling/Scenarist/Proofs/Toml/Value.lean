import Scenarist.Proofs.Toml.String

/-!
# Values of TOML Are Read Back

A value that stands on a line is read back, brackets and all, unless its brackets nest deeper than
the reader follows (`readsBack_of_held`). Nothing is asked of it but what every value that is
written satisfies (`Held`): integers of 64 bits, and no key twice in a table. It comes back as it
was but for the numbers that are undefined (`reread`).

What is read of a value does not depend on what comes after it, as long as the value ends there
(`Stops`). So `ReadsBack` speaks of a value inside so many brackets with any text behind it, and an
array or a table is read back if what is in it is, one bracket deeper.

## Main results

* `key_pathForm`: the parts of a key are read back, unless there are too many.
* `readsBack_array`, `readsBack_table`: the steps over one pair of brackets.
* `readsBack_of_held`: **a value is read back** unless its brackets are too deep.
-/

namespace Scenarist.Toml

variable {rest : List Char}

/-! ### Which values -/

mutual

/-- A value that can be **held**: its integers fit 64 bits with a sign, no two members of a table
have one key, and no date is in it. -/
def Held : Toml → Prop
  | .integer n => -(2 ^ 63) ≤ n ∧ n < 2 ^ 63
  | .date _ => False
  | .array items => ItemsHeld items
  | .table members => (members.map Prod.fst).Nodup ∧ MembersHeld members
  | _ => True

/-- The items of an array can be held. -/
def ItemsHeld : List Toml → Prop
  | [] => True
  | v :: vs => Held v ∧ ItemsHeld vs

/-- The values of members can be held. -/
def MembersHeld : List (String × Toml) → Prop
  | [] => True
  | (_, v) :: vs => Held v ∧ MembersHeld vs

end

/-- The brackets of the value nest at most so deep. -/
def FitsIn : Nat → Toml → Prop
  | 0, .array _ => False
  | 0, .table _ => False
  | n + 1, .array items => ∀ v ∈ items, FitsIn n v
  | n + 1, .table members => ∀ m ∈ members, FitsIn n m.2
  | _, _ => True

mutual

/-- How a value on one line reads back: numbers that are undefined are all alike. -/
def reread : Toml → Toml
  | .float x => .float (rereadFloat x)
  | .array items => .array (rereadItems items)
  | .table members => .table (rereadMembers members)
  | v => v

/-- How the items of an array read back. -/
def rereadItems : List Toml → List Toml
  | [] => []
  | v :: vs => reread v :: rereadItems vs

/-- How the members of a table on a line read back. -/
def rereadMembers : List (String × Toml) → List (String × Toml)
  | [] => []
  | (k, v) :: vs => (k, reread v) :: rereadMembers vs

end

/-! ### Blanks and line ends -/

/-- A character that is none of those skipped between values. -/
def Inks (c : Char) : Prop := c ∉ [' ', '\t', '#', '\n', '\r']

instance (c : Char) : Decidable (Inks c) := inferInstanceAs (Decidable (c ∉ _))

/-- The text begins with something that is not skipped. -/
def Inked (cs : List Char) : Prop := ∀ c, cs.head? = some c → Inks c

/-- What is not skipped is no blank. -/
theorem Inks.not_isBlank {c : Char} (h : Inks c) : isBlank c = false := by
  simp only [Inks, List.mem_cons, not_or] at h
  simp [isBlank, h]

/-- There are no blanks to drop where something begins. -/
theorem Inked.dropBlanks_eq {cs : List Char} (h : Inked cs) : dropBlanks cs = cs := by
  cases cs with
  | nil => rfl
  | cons c cs =>
      exact List.dropWhile_cons_of_neg (by rw [(h c rfl).not_isBlank]; decide)

/-- There is no comment to drop where something begins. -/
theorem Inked.dropComment_eq {cs : List Char} (h : Inked cs) : dropComment cs = some cs := by
  rw [dropComment]
  rintro cs' rfl
  exact h '#' rfl (by decide)

/-- No line ends where something begins. -/
theorem Inked.lineEnd?_eq {cs : List Char} (h : Inked cs) : lineEnd? cs = none := by
  rw [lineEnd?]
  · rintro cs' rfl
    exact h '\n' rfl (by decide)
  · rintro cs' rfl
    exact h '\r' rfl (by decide)

/-- Nothing is skipped where something begins. -/
theorem Inked.dropVoid_eq {cs : List Char} (h : Inked cs) (fuel : Nat) :
    dropVoid (fuel + 1) cs = some cs := by
  rw [dropVoid, h.dropBlanks_eq, h.dropComment_eq]
  dsimp only [Option.bind_eq_bind, Option.bind_some]
  rw [h.lineEnd?_eq]
  rfl

/-- A line end and the blanks after it are skipped. -/
theorem Inked.dropVoid_line {cs : List Char} (h : Inked cs) (blanks : List Char)
    (hblanks : blanks.all isBlank = true) (fuel : Nat) :
    dropVoid (fuel + 2) ('\n' :: (blanks ++ cs)) = some cs := by
  have hdrop : dropBlanks (blanks ++ cs) = cs := by
    rw [dropBlanks, List.dropWhile_append_of_pos (List.all_eq_true.1 hblanks)]
    exact h.dropBlanks_eq
  have hline : dropVoid (fuel + 1) (blanks ++ cs) = some cs := by
    rw [dropVoid, hdrop, h.dropComment_eq]
    dsimp only [Option.bind_eq_bind, Option.bind_some]
    rw [h.lineEnd?_eq]
    rfl
  exact hline

/-! ### Keys -/

/-- A key begins with a character that may stand in it, or with a quote. -/
theorem exists_keyForm (s : String) :
    ∃ c cs, keyForm s = c :: cs ∧ (isBare c = true ∨ c = '"' ∨ c = '\'') := by
  rw [keyForm]
  split
  · next h =>
    rw [Bool.and_eq_true] at h
    cases hcs : s.toList with
    | nil =>
        rw [hcs] at h
        cases h.1
    | cons c cs =>
        rw [hcs] at h
        exact ⟨c, cs, rfl, .inl (List.all_eq_true.1 h.2 c List.mem_cons_self)⟩
  split
  · exact ⟨_, _, rfl, .inr (.inl rfl)⟩
  split
  · exact ⟨_, _, rfl, .inr (.inr rfl)⟩
  · exact ⟨_, _, rfl, .inr (.inl rfl)⟩

/-- No other character begins a key. -/
theorem keyForm_head?_ne (s : String) {d : Char} (hbare : isBare d = false)
    (hquotes : d ∉ ['"', '\'']) (cs : List Char) : (keyForm s ++ cs).head? ≠ some d := by
  obtain ⟨c, key, hkey, hc⟩ := exists_keyForm s
  rw [hkey]
  rintro ⟨⟩
  rcases hc with hc | rfl | rfl
  · exact absurd hc (by rw [hbare]; decide)
  · exact hquotes (by decide)
  · exact hquotes (by decide)

/-- Nothing of a key is skipped, bare or quoted. -/
theorem inked_keyForm (s : String) (cs : List Char) : Inked (keyForm s ++ cs) := by
  intro c hc hmem
  have hskipped : isBare c = false ∧ c ∉ ['"', '\''] := by
    simp only [List.mem_cons, List.not_mem_nil, or_false] at hmem
    rcases hmem with rfl | rfl | rfl | rfl | rfl <;> decide
  exact keyForm_head?_ne s hskipped.1 hskipped.2 cs hc

/-- A path begins with its first key. -/
theorem exists_pathForm (k : String) (path : List String) :
    ∃ cs, pathForm (k :: path) = keyForm k ++ cs := by
  cases path with
  | nil => exact ⟨[], by simp [pathForm]⟩
  | cons l path =>
      refine ⟨'.' :: pathForm (l :: path), ?_⟩
      simp [pathForm, List.intercalate_cons_cons]

/-- No other character begins a path than begins a key. -/
theorem pathForm_head?_ne {path : List String} (hne : path ≠ []) {d : Char}
    (hbare : isBare d = false) (hquotes : d ∉ ['"', '\'']) (cs : List Char) :
    (pathForm path ++ cs).head? ≠ some d := by
  obtain ⟨k, path, rfl⟩ := List.exists_cons_of_ne_nil hne
  obtain ⟨tail, htail⟩ := exists_pathForm k path
  rw [htail, List.append_assoc]
  exact keyForm_head?_ne k hbare hquotes _

/-- Nothing of a path is skipped. -/
theorem inked_pathForm {path : List String} (hne : path ≠ []) (cs : List Char) :
    Inked (pathForm path ++ cs) := by
  obtain ⟨k, path, rfl⟩ := List.exists_cons_of_ne_nil hne
  obtain ⟨tail, htail⟩ := exists_pathForm k path
  rw [htail, List.append_assoc]
  exact inked_keyForm k _

/-- **The parts of a key are read back**, points between them, if nothing follows that could belong
to the key. -/
theorem key_pathForm {path : List String} (hne : path ≠ []) {fuel : Nat}
    (hfuel : path.length ≤ fuel) (hbare : ∀ c, rest.head? = some c → isBare c = false)
    (hpoint : (dropBlanks rest).head? ≠ some '.')
    {cs : List Char} (hcs : dropBlanks cs = pathForm path ++ rest) :
    key fuel cs = some (path, dropBlanks rest) := by
  induction path generalizing fuel cs with
  | nil => exact absurd rfl hne
  | cons k path ih =>
      obtain ⟨fuel, rfl⟩ := Nat.exists_eq_succ_of_ne_zero
        (Nat.ne_zero_of_lt (Nat.lt_of_lt_of_le (Nat.succ_pos _) hfuel))
      cases path with
      | nil =>
          have htext : pathForm [k] ++ rest = keyForm k ++ rest := by simp [pathForm]
          rw [key, hcs, htext, keyPart_keyForm k hbare]
          dsimp only [Option.bind_eq_bind, Option.bind_some]
          split
          · next heq =>
            rw [heq] at hpoint
            exact absurd rfl hpoint
          · rfl
      | cons l path =>
          have htext : pathForm (k :: l :: path) ++ rest =
              keyForm k ++ '.' :: (pathForm (l :: path) ++ rest) := by
            simp [pathForm, List.intercalate_cons_cons]
          have hinked : Inked (pathForm (l :: path) ++ rest) := inked_pathForm (by simp) rest
          have hrest :
              key fuel (pathForm (l :: path) ++ rest) = some (l :: path, dropBlanks rest) :=
            ih (by simp) (Nat.le_of_succ_le_succ hfuel) hinked.dropBlanks_eq
          have hpoint' : dropBlanks ('.' :: (pathForm (l :: path) ++ rest)) =
              '.' :: (pathForm (l :: path) ++ rest) := List.dropWhile_cons_of_neg (by decide)
          rw [key, hcs, htext, keyPart_keyForm k (by rintro c ⟨⟩; decide)]
          dsimp only [Option.bind_eq_bind, Option.bind_some]
          rw [hpoint']
          change (key fuel (pathForm (l :: path) ++ rest)).bind _ = _
          rw [hrest]
          rfl

/-- A key alone, with the equals sign after it. -/
theorem keyPath_equals (k : String) (cs : List Char) {cs' : List Char}
    (hcs : dropBlanks cs' = keyForm k ++ ' ' :: '=' :: cs) :
    keyPath cs' = some ([k], '=' :: cs) := by
  have hpath : pathForm [k] = keyForm k := by simp [pathForm]
  have hdrop : dropBlanks (' ' :: '=' :: cs) = '=' :: cs := by
    rw [dropBlanks, List.dropWhile_cons_of_pos (by decide),
      List.dropWhile_cons_of_neg (by decide)]
  have hread : keyPath cs' = some ([k], dropBlanks (' ' :: '=' :: cs)) :=
    key_pathForm (by simp) (by rw [List.length_singleton]; decide) (by rintro c ⟨⟩; decide)
      (by rw [hdrop]; simp) (by rw [hcs, hpath])
  rwa [hdrop] at hread

/-! ### Members -/

namespace Node

/-- The key is not taken. -/
def Fresh (key : String) (members : Members) : Prop := key ∉ members.map Prod.fst

/-- Nothing is found under a key that is not taken. -/
theorem Fresh.lookup_eq {key : String} {members : Members} (h : Fresh key members) :
    members.lookup key = none := by
  induction members with
  | nil => rfl
  | cons m members ih =>
      rw [Fresh, List.map_cons, List.mem_cons, not_or] at h
      rw [List.lookup_cons, beq_false_of_ne h.1]
      exact ih h.2

/-- What is put under a key that is not taken comes last. -/
theorem Fresh.put_eq {key : String} {members : Members} (h : Fresh key members) (n : Node) :
    put key n members = members ++ [(key, n)] := by
  induction members with
  | nil => rfl
  | cons m members ih =>
      rw [Fresh, List.map_cons, List.mem_cons, not_or] at h
      rw [put, if_neg (Ne.symm h.1), ih h.2, List.cons_append]

/-- A value under a key of its own is added at the end. -/
theorem addDotted_of_fresh {key : String} {members : Members} (h : Fresh key members) (v : Toml) :
    addDotted v [key] members = some (members ++ [(key, .leaf v)]) := by
  rw [addDotted, addValue, h.lookup_eq]
  exact congrArg some (h.put_eq _)

/-- Members are finished one by one. -/
theorem finishMembers_append (ms ns : Members) :
    finishMembers (ms ++ ns) = finishMembers ms ++ finishMembers ns := by
  induction ms with
  | nil => rfl
  | cons m ms ih =>
      obtain ⟨k, n⟩ := m
      rw [List.cons_append, finishMembers, ih, finishMembers, List.cons_append]

/-- A key is still not taken when something is put under another one. -/
theorem Fresh.append {key k : String} {members : Members} (h : Fresh key members) (hk : key ≠ k)
    (n : Node) : Fresh key (members ++ [(k, n)]) := by
  rw [Fresh, List.map_append, List.mem_append, not_or]
  exact ⟨h, by simpa using hk⟩

end Node

/-! ### Values -/

/-- A numeral begins with something that is not skipped, and that is no closing bracket. -/
theorem Numeral.inks {cs : List Char} (h : Numeral cs) :
    ∃ c rest, cs = c :: rest ∧ Inks c ∧ c ≠ ']' := by
  obtain ⟨c, rest, rfl, hc⟩ := h.head
  refine ⟨c, rest, rfl, ?_, ?_⟩
  · intro hmem
    simp only [List.mem_cons, List.not_mem_nil, or_false] at hmem
    rcases hmem with rfl | rfl | rfl | rfl | rfl <;> exact absurd hc (by decide)
  · rintro rfl
    exact absurd hc (by decide)

/-- A value begins with something that is not skipped and does not close a bracket. -/
theorem valueForm_head {v : Toml} (h : Held v) :
    ∃ c cs, valueForm v = c :: cs ∧ Inks c ∧ c ≠ ']' := by
  cases v with
  | string s =>
      obtain ⟨c, cs, hform, rfl | rfl⟩ := exists_stringForm s
      · exact ⟨'"', cs, hform, by decide, by decide⟩
      · exact ⟨'\'', cs, hform, by decide, by decide⟩
  | integer n =>
      have hn : Numeral ((Decimal.intText n).toList ++ []) :=
        numeral_intText n fun c hc => by cases hc
      rw [List.append_nil] at hn
      exact hn.inks
  | float x =>
      have hx := numeral_floatForm x []
      rw [List.append_nil] at hx
      exact hx.inks
  | bool b =>
      cases b with
      | false => exact ⟨'f', _, rfl, by decide, by decide⟩
      | true => exact ⟨'t', _, rfl, by decide, by decide⟩
  | date text => exact absurd h id
  | array items =>
      match items with
      | [] => exact ⟨_, _, rfl, by decide, by decide⟩
      | [v] => exact ⟨_, _, rfl, by decide, by decide⟩
      | _ :: _ :: _ => exact ⟨_, _, rfl, by decide, by decide⟩
  | table members =>
      match members with
      | [] => exact ⟨_, _, rfl, by decide, by decide⟩
      | _ :: _ => exact ⟨_, _, rfl, by decide, by decide⟩

/-- Nothing of a value is skipped. -/
theorem inked_valueForm {v : Toml} (h : Held v) (rest : List Char) :
    Inked (valueForm v ++ rest) := by
  obtain ⟨c, cs, hcs, hinks, -⟩ := valueForm_head h
  rw [hcs]
  rintro _ ⟨⟩
  exact hinks

/-- The value is read back wherever it stands inside so many brackets. -/
def ReadsBack (v : Toml) (depth : Nat) : Prop :=
  ∀ fuel rest, (valueForm v).length < fuel → Stops rest →
    value fuel depth (valueForm v ++ rest) = some (reread v, rest)

/-- A value stops before the end of its line, a comma, a bracket or a blank. -/
theorem stops_cons {c : Char} (hc : c ∈ ['\n', ',', ']', ' ']) (rest : List Char) :
    Stops (c :: rest) := by
  rintro _ ⟨⟩
  exact hc

/-- Something begins where its first character is not skipped. -/
theorem inked_cons {c : Char} (hc : Inks c) (rest : List Char) : Inked (c :: rest) := by
  rintro _ ⟨⟩
  exact hc

/-! ### The texts of brackets -/

/-- The blank before a key is dropped, and nothing of the key. -/
theorem dropBlanks_key (k : String) (cs : List Char) :
    dropBlanks (' ' :: (keyForm k ++ cs)) = keyForm k ++ cs := by
  rw [dropBlanks, List.dropWhile_cons_of_pos (by decide)]
  exact (inked_keyForm k cs).dropBlanks_eq

/-- The blank before a value is dropped, and nothing of the value. -/
theorem dropBlanks_value {v : Toml} (h : Held v) (cs : List Char) :
    dropBlanks (' ' :: (valueForm v ++ cs)) = valueForm v ++ cs := by
  rw [dropBlanks, List.dropWhile_cons_of_pos (by decide)]
  exact (inked_valueForm h cs).dropBlanks_eq

/-- No items are written on no lines. -/
theorem itemLines_nil : itemLines [] = [] := by
  rw [itemLines.eq_def]

/-- Each item has a line of its own, with a comma at the end. -/
theorem itemLines_cons (v : Toml) (items : List Toml) : itemLines (v :: items) =
    "\n    ".toList ++ valueForm v ++ ',' :: itemLines items := by
  rw [itemLines.eq_def]

/-- The line of the first item comes first, whatever comes after the lines. -/
theorem itemLines_cons_append (v : Toml) (items : List Toml) (cs : List Char) :
    itemLines (v :: items) ++ cs =
      '\n' :: ("    ".toList ++ (valueForm v ++ ',' :: (itemLines items ++ cs))) := by
  simp [itemLines_cons]

/-- The line of an item is longer than the item. -/
theorem length_itemLines_cons (v : Toml) (items : List Toml) :
    (itemLines (v :: items)).length = (valueForm v).length + (itemLines items).length + 6 := by
  simp [itemLines_cons]
  omega

/-- The line end and the blanks before an item are skipped. -/
theorem dropVoid_itemLines {v : Toml} (h : Held v) (items : List Toml) (cs : List Char) :
    dropVoid ((itemLines (v :: items) ++ cs).length + 1) (itemLines (v :: items) ++ cs) =
      some (valueForm v ++ ',' :: (itemLines items ++ cs)) := by
  rw [itemLines_cons_append]
  exact (inked_valueForm h _).dropVoid_line "    ".toList rfl _

/-- A member that is not the first comes after a comma and a blank. -/
theorem memberForms_cons_append (k : String) (v : Toml) (members : List (String × Toml))
    (cs : List Char) : memberForms false ((k, v) :: members) ++ cs =
      ',' :: ' ' :: (keyForm k ++ ' ' :: '=' :: ' ' ::
        (valueForm v ++ (memberForms false members ++ cs))) := by
  simp [memberForms]

/-- The form of a member is longer than its key and its value. -/
theorem length_memberForms_cons (k : String) (v : Toml) (members : List (String × Toml)) :
    (memberForms false ((k, v) :: members)).length =
      (keyForm k).length + (valueForm v).length + (memberForms false members).length + 5 := by
  simp [memberForms]
  omega

/-- An array of several items. -/
theorem valueForm_array (v w : Toml) (items : List Toml) :
    valueForm (.array (v :: w :: items)) =
      '[' :: (itemLines (v :: w :: items) ++ ['\n', ']']) := by
  rw [valueForm, List.cons_append] <;> simp

/-- A table with members. -/
theorem valueForm_table (k : String) (v : Toml) (members : List (String × Toml)) :
    valueForm (.table ((k, v) :: members)) =
      '\x7b' :: ' ' :: (keyForm k ++ ' ' :: '=' :: ' ' ::
        (valueForm v ++ (memberForms false members ++ [' ', '\x7d']))) := by
  rw [valueForm]
  · simp [memberForms]
  · simp

/-! ### Arrays and tables on one line -/

section

variable {v : Toml} {depth fuel : Nat} {cs rest' : List Char}

/-- The next item of an array is read. -/
theorem arrayItems_item (hv : Held v) (hread : ReadsBack v depth)
    (hfuel : (valueForm v).length < fuel) (acc : List Toml)
    (hcs : dropVoid (cs.length + 1) cs = some (valueForm v ++ ',' :: rest)) :
    arrayItems (fuel + 1) depth acc cs = arrayItems fuel depth (reread v :: acc) rest := by
  obtain ⟨c, tail, htail, -, hclose⟩ := valueForm_head hv
  have hvalue := hread fuel (',' :: rest) hfuel (stops_cons (by decide) rest)
  have hcomma := (inked_cons (c := ',') (by decide) rest).dropVoid_eq (',' :: rest).length
  rw [arrayItems, hcs]
  dsimp only [Option.bind_eq_bind, Option.bind_some]
  split
  · next heq =>
    rw [htail] at heq
    exact absurd (List.cons.inj heq).1 hclose
  · rw [hvalue]
    dsimp only [Option.bind_some]
    rw [hcomma]
    rfl

/-- The only item of an array is read, and the array with it. -/
theorem arrayItems_only (hv : Held v) (hread : ReadsBack v depth)
    (hfuel : (valueForm v).length < fuel) :
    arrayItems (fuel + 1) depth [] (valueForm v ++ ']' :: rest) =
      some (.array [reread v], rest) := by
  obtain ⟨c, tail, htail, -, hclose⟩ := valueForm_head hv
  have hvalue := hread fuel (']' :: rest) hfuel (stops_cons (by decide) rest)
  have hbracket := (inked_cons (c := ']') (by decide) rest).dropVoid_eq (']' :: rest).length
  rw [arrayItems, (inked_valueForm hv _).dropVoid_eq]
  dsimp only [Option.bind_eq_bind, Option.bind_some]
  split
  · next heq =>
    rw [htail] at heq
    exact absurd (List.cons.inj heq).1 hclose
  · rw [hvalue]
    dsimp only [Option.bind_some]
    rw [hbracket]
    rfl

/-- The closing bracket of an array on a line of its own. -/
theorem arrayItems_close (acc : List Toml) :
    arrayItems (fuel + 1) depth acc ('\n' :: ']' :: rest) = some (.array acc.reverse, rest) := by
  have hbracket := (inked_cons (c := ']') (by decide) rest).dropVoid_line [] rfl
    (rest.length + 1)
  rw [List.nil_append] at hbracket
  rw [arrayItems, List.length_cons, List.length_cons, hbracket]
  rfl

/-- The items of an array, each on a line of its own. -/
theorem arrayItems_itemLines {items : List Toml} (hitems : ∀ v ∈ items, Held v ∧ ReadsBack v depth)
    (hfuel : (itemLines items).length < fuel) (acc : List Toml) :
    arrayItems fuel depth acc (itemLines items ++ '\n' :: ']' :: rest) =
      some (.array (acc.reverse ++ rereadItems items), rest) := by
  induction items generalizing fuel acc with
  | nil =>
      obtain ⟨fuel, rfl⟩ := Nat.exists_eq_succ_of_ne_zero (Nat.ne_zero_of_lt hfuel)
      rw [itemLines_nil, List.nil_append, arrayItems_close, rereadItems, List.append_nil]
  | cons v items ih =>
      obtain ⟨fuel, rfl⟩ := Nat.exists_eq_succ_of_ne_zero (Nat.ne_zero_of_lt hfuel)
      obtain ⟨hv, hread⟩ := hitems v List.mem_cons_self
      have hlength := length_itemLines_cons v items
      rw [arrayItems_item hv hread (by omega) acc (dropVoid_itemLines hv items _),
        ih (fun w hw => hitems w (List.mem_cons_of_mem v hw)) (by omega), rereadItems]
      simp

/-- The next member of a table on one line is read; a comma or a brace follows. -/
theorem tableMembers_member {k : String} (hv : Held v) (hread : ReadsBack v depth)
    (hfuel : (valueForm v).length < fuel) {acc : Members} (hfresh : Node.Fresh k acc)
    (hcs : dropBlanks cs = keyForm k ++ ' ' :: '=' :: ' ' :: (valueForm v ++ rest))
    (hstops : Stops rest) :
    (dropBlanks rest = ',' :: rest' → tableMembers (fuel + 1) depth acc cs =
      tableMembers fuel depth (acc ++ [(k, .leaf (reread v))]) rest') ∧
    (dropBlanks rest = '\x7d' :: rest' → tableMembers (fuel + 1) depth acc cs =
      some (.table (Node.finishMembers (acc ++ [(k, .leaf (reread v))])), rest')) := by
  have hequals : after? '=' ('=' :: ' ' :: (valueForm v ++ rest)) =
      some (' ' :: (valueForm v ++ rest)) := rfl
  rw [tableMembers, keyPath_equals k _ hcs]
  dsimp only [Option.bind_eq_bind, Option.bind_some]
  rw [hequals]
  dsimp only [Option.bind_some]
  rw [dropBlanks_value hv, hread fuel rest hfuel hstops]
  dsimp only [Option.bind_some]
  rw [Node.addDotted_of_fresh hfresh]
  constructor
  · intro hrest
    rw [hrest]
    rfl
  · intro hrest
    rw [hrest]
    rfl

/-- The members of a table on one line, the blanks before the first one left out or not. -/
theorem tableMembers_memberForms {k : String} {members : List (String × Toml)}
    (hmembers : ∀ m ∈ (k, v) :: members, Held m.2 ∧ ReadsBack m.2 depth) {acc : Members}
    (hfresh : (acc.map Prod.fst ++ k :: members.map Prod.fst).Nodup)
    (hfuel : (valueForm v).length + (memberForms false members).length + 1 < fuel)
    (hcs : dropBlanks cs = keyForm k ++ ' ' :: '=' :: ' ' ::
      (valueForm v ++ (memberForms false members ++ ' ' :: '\x7d' :: rest))) :
    tableMembers fuel depth acc cs =
      some (.table (Node.finishMembers acc ++ rereadMembers ((k, v) :: members)), rest) := by
  have hfirst {members : List (String × Toml)} {k : String} {acc : Members}
      (h : (acc.map Prod.fst ++ k :: members.map Prod.fst).Nodup) : Node.Fresh k acc :=
    fun hmem => (List.nodup_append.1 h).2.2 k hmem k List.mem_cons_self rfl
  induction members generalizing k v fuel acc cs with
  | nil =>
      obtain ⟨fuel, rfl⟩ := Nat.exists_eq_succ_of_ne_zero (Nat.ne_zero_of_lt hfuel)
      obtain ⟨hv, hread⟩ : Held v ∧ ReadsBack v depth := hmembers (k, v) List.mem_cons_self
      have hshort : (valueForm v).length < fuel := by omega
      rw [memberForms, List.nil_append] at hcs
      have hbrace : dropBlanks (' ' :: '\x7d' :: rest) = '\x7d' :: rest := rfl
      rw [(tableMembers_member hv hread hshort (hfirst hfresh) hcs
        (stops_cons (by decide) _)).2 hbrace, Node.finishMembers_append]
      rfl
  | cons m members ih =>
      obtain ⟨k', v'⟩ := m
      obtain ⟨fuel, rfl⟩ := Nat.exists_eq_succ_of_ne_zero (Nat.ne_zero_of_lt hfuel)
      obtain ⟨hv, hread⟩ : Held v ∧ ReadsBack v depth := hmembers (k, v) List.mem_cons_self
      have hlength := length_memberForms_cons k' v' members
      have hshort : (valueForm v).length < fuel := by omega
      rw [memberForms_cons_append] at hcs
      have hfresh' : ((acc ++ [(k, Node.leaf (reread v))]).map Prod.fst ++
          k' :: members.map Prod.fst).Nodup := by
        simpa using hfresh
      rw [(tableMembers_member hv hread hshort (hfirst hfresh) hcs
          (stops_cons (by decide) _)).1 (List.dropWhile_cons_of_neg (by decide)),
        ih (fun m hm => hmembers m (List.mem_cons_of_mem _ hm)) hfresh' (by omega)
          (dropBlanks_key k' _), Node.finishMembers_append, List.append_assoc]
      rfl

end

/-- Items can be held if each of them can. -/
theorem itemsHeld_iff {items : List Toml} : ItemsHeld items ↔ ∀ v ∈ items, Held v := by
  induction items with
  | nil => simp [ItemsHeld]
  | cons v items ih => rw [ItemsHeld, ih, List.forall_mem_cons]

/-- Members can be held if the value of each of them can. -/
theorem membersHeld_iff {members : List (String × Toml)} :
    MembersHeld members ↔ ∀ m ∈ members, Held m.2 := by
  induction members with
  | nil => simp [MembersHeld]
  | cons m members ih => rw [MembersHeld, ih, List.forall_mem_cons]

/-- A value without brackets is read back. -/
theorem readsBack_of_scalar {v : Toml} (h : Held v) (hscalar : FitsIn 0 v) (depth : Nat) :
    ReadsBack v depth := by
  intro fuel rest hfuel hstops
  obtain ⟨fuel, rfl⟩ := Nat.exists_eq_succ_of_ne_zero (Nat.ne_zero_of_lt hfuel)
  cases v with
  | string s =>
      rw [valueForm]
      exact value_stringForm s hstops fuel depth
  | integer n =>
      rw [valueForm, (numeral_intText n hstops).value_eq]
      exact numberValue_intText h.1 h.2 hstops
  | float x =>
      rw [valueForm, (numeral_floatForm x rest).value_eq]
      exact numberValue_floatForm x hstops
  | bool b => cases b <;> rfl
  | date text => exact absurd h id
  | array items => exact absurd hscalar id
  | table members => exact absurd hscalar id

/-- An array is read back if its items are. -/
theorem readsBack_array {items : List Toml} {depth : Nat} (hdepth : depth + 1 < depthLimit)
    (hitems : ∀ v ∈ items, Held v ∧ ReadsBack v (depth + 1)) : ReadsBack (.array items) depth := by
  intro fuel rest hfuel hstops
  obtain ⟨fuel, rfl⟩ := Nat.exists_eq_succ_of_ne_zero (Nat.ne_zero_of_lt hfuel)
  have hopen (cs : List Char) : value (fuel + 1) depth ('[' :: cs) =
      arrayItems fuel (depth + 1) [] cs := by
    rw [value, if_neg (not_le.2 hdepth)]
  obtain _ | ⟨v, _ | ⟨w, items⟩⟩ := items
  · rw [valueForm, List.length_cons] at hfuel
    obtain ⟨fuel, rfl⟩ : ∃ k, fuel = k + 1 := Nat.exists_eq_succ_of_ne_zero (by omega)
    have hbracket := (inked_cons (c := ']') (by decide) rest).dropVoid_eq (']' :: rest).length
    rw [valueForm, List.cons_append, hopen, List.singleton_append, arrayItems, hbracket]
    rfl
  · obtain ⟨hv, hread⟩ := hitems v List.mem_cons_self
    have hlength : (valueForm (.array [v])).length = (valueForm v).length + 2 := by
      simp [valueForm]
    obtain ⟨fuel, rfl⟩ : ∃ k, fuel = k + 1 := Nat.exists_eq_succ_of_ne_zero (by omega)
    rw [valueForm, List.cons_append, List.cons_append, List.append_assoc, hopen,
      List.singleton_append, arrayItems_only hv hread (by omega)]
    rfl
  · rw [valueForm_array, List.length_cons, List.length_append] at hfuel
    have htext : valueForm (.array (v :: w :: items)) ++ rest =
        '[' :: (itemLines (v :: w :: items) ++ '\n' :: ']' :: rest) := by
      simp [valueForm_array]
    rw [htext, hopen, arrayItems_itemLines hitems (by omega)]
    rfl

/-- A table is read back if the values of its members are. -/
theorem readsBack_table {members : List (String × Toml)} {depth : Nat}
    (hdepth : depth + 1 < depthLimit) (hkeys : (members.map Prod.fst).Nodup)
    (hmembers : ∀ m ∈ members, Held m.2 ∧ ReadsBack m.2 (depth + 1)) :
    ReadsBack (.table members) depth := by
  intro fuel rest hfuel hstops
  obtain ⟨fuel, rfl⟩ := Nat.exists_eq_succ_of_ne_zero (Nat.ne_zero_of_lt hfuel)
  cases members with
  | nil =>
      rw [valueForm, List.cons_append, value, if_neg (not_le.2 hdepth)]
      rfl
  | cons m members =>
      obtain ⟨k, v⟩ := m
      have htext : valueForm (.table ((k, v) :: members)) ++ rest =
          '\x7b' :: ' ' :: (keyForm k ++ ' ' :: '=' :: ' ' ::
            (valueForm v ++ (memberForms false members ++ ' ' :: '\x7d' :: rest))) := by
        simp [valueForm_table]
      have hlength : (valueForm (.table ((k, v) :: members))).length =
          (keyForm k).length + (valueForm v).length + (memberForms false members).length + 7 := by
        simp [valueForm_table]
        omega
      have hread : tableMembers fuel (depth + 1) [] (keyForm k ++ ' ' :: '=' :: ' ' ::
          (valueForm v ++ (memberForms false members ++ ' ' :: '\x7d' :: rest))) =
          some (.table (rereadMembers ((k, v) :: members)), rest) :=
        tableMembers_memberForms hmembers hkeys (by omega) (inked_keyForm k _).dropBlanks_eq
      rw [htext, value, if_neg (not_le.2 hdepth), dropBlanks_key]
      split
      · next heq =>
        exact absurd (congrArg List.head? heq)
          (keyForm_head?_ne k (d := '\x7d') (by decide) (by decide) _)
      · rw [hread]
        rfl

/-- **A value is read back** wherever it stands, unless its brackets are too deep. -/
theorem readsBack_of_held {v : Toml} (h : Held v) {n depth : Nat} (hfits : FitsIn n v)
    (hdepth : depth + n < depthLimit) : ReadsBack v depth := by
  induction n generalizing v depth with
  | zero => exact readsBack_of_scalar h hfits depth
  | succ n ih =>
      have hinner : depth + 1 + n < depthLimit := by omega
      cases v with
      | string | integer | float | bool | date => exact readsBack_of_scalar h trivial depth
      | array items =>
          have hheld := itemsHeld_iff.1 h
          exact readsBack_array (by omega) fun v hv =>
            ⟨hheld v hv, ih (hheld v hv) (hfits v hv) hinner⟩
      | table members =>
          have hheld := membersHeld_iff.1 h.2
          exact readsBack_table (by omega) h.1
            fun m hm => ⟨hheld m hm, ih (hheld m hm) (hfits m hm) hinner⟩

end Scenarist.Toml
