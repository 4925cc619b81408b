import Scenarist.Proofs.Json.Token

/-!
# The Documents of JSON Texts

The reader of JSON against the grammar: it reads a JSON text as the document that the text spells,
and nothing is left over (`Document.ofText_of_spellsText`). Only brackets inside too many others
make a difference, and the reader marks them (`Document.limited`).

The induction is on the derivation of the text in the grammar, with the fuel of the reader and the
tokens behind the value left open. One unit of fuel for each token is enough.

## Main results

* `Document.value_tokens`: a value is read from its tokens, up to their end.
* `Document.ofText_of_spellsText`: **the reader reads what the grammar says**.
* `parse?_of_spellsText`: the value of a JSON text is that of the document that it spells.
-/

namespace Scenarist.Json

namespace Document

mutual

/-- The document with a mark on each bracket that stands inside too many others, itself inside
`depth` brackets. -/
def limited (depth : Nat) : Document → Document
  | .array items closed => nested depth (.array (limitedItems (depth + 1) items) closed)
  | .object members closed => nested depth (.object (limitedMembers (depth + 1) members) closed)
  | d => d

/-- The items of an array at this depth. -/
def limitedItems (depth : Nat) : List Document → List Document
  | [] => []
  | d :: ds => limited depth d :: limitedItems depth ds

/-- The members of an object at this depth. -/
def limitedMembers (depth : Nat) :
    List (Option String × Document) → List (Option String × Document)
  | [] => []
  | (k, d) :: ms => (k, limited depth d) :: limitedMembers depth ms

end

/-! ### The reader -/

/-- An array is read if its items are, one level deeper. -/
theorem value_array {fuel depth : Nat} {ts r : List Token} {ds : List Document}
    (hhead : ts.head? ≠ some .closeBracket)
    (h : arrayItems fuel (depth + 1) ts = (ds, some r)) :
    value (fuel + 1) depth (.openBracket :: ts) = (nested depth (.array ds true), some r) := by
  rw [value, h]
  · rfl
  · rintro _ rfl
    exact hhead rfl

/-- An object is read if its members are, one level deeper. -/
theorem value_object {fuel depth : Nat} {ts r : List Token}
    {ms : List (Option String × Document)} (hhead : ts.head? ≠ some .closeBrace)
    (h : objectMembers fuel (depth + 1) ts = (ms, some r)) :
    value (fuel + 1) depth (.openBrace :: ts) = (nested depth (.object ms true), some r) := by
  rw [value, h]
  · rfl
  · rintro _ rfl
    exact hhead rfl

/-- The last item is read with the bracket after it. -/
theorem arrayItems_last {fuel depth : Nat} {ts r : List Token} {d : Document}
    (h : value fuel depth ts = (d, some (.closeBracket :: r))) :
    arrayItems (fuel + 1) depth ts = ([d], some r) := by
  rw [arrayItems, h]

/-- An item is read with the comma after it, and then the others. -/
theorem arrayItems_comma {fuel depth : Nat} {ts r r' : List Token} {d : Document}
    {ds : List Document} (h : value fuel depth ts = (d, some (.comma :: r)))
    (hrest : arrayItems fuel depth r = (ds, some r')) :
    arrayItems (fuel + 1) depth ts = (d :: ds, some r') := by
  rw [arrayItems, h]
  dsimp only
  rw [hrest]

/-- The last member is read with the brace after it. -/
theorem objectMembers_last {fuel depth : Nat} {k : Option String} {ts r : List Token}
    {d : Document} (h : value fuel depth ts = (d, some (.closeBrace :: r))) :
    objectMembers (fuel + 1) depth (.string k :: .colon :: ts) = ([(k, d)], some r) := by
  rw [objectMembers, h]

/-- A member is read with the comma after it, and then the others. -/
theorem objectMembers_comma {fuel depth : Nat} {k : Option String} {ts r r' : List Token}
    {d : Document} {ms : List (Option String × Document)}
    (h : value fuel depth ts = (d, some (.comma :: r)))
    (hrest : objectMembers fuel depth r = (ms, some r')) :
    objectMembers (fuel + 1) depth (.string k :: .colon :: ts) = ((k, d) :: ms, some r') := by
  rw [objectMembers, h]
  dsimp only
  rw [hrest]

end Document

/-- No document begins with a closing bracket. -/
theorem Spells.head_ne_closeBracket {d : Document} {cs : List Char} (h : Spells d cs)
    (ts : List Token) : (d.tokens ++ ts).head? ≠ some .closeBracket := by
  cases h <;> simp [Document.tokens]

/-- Items do not begin with a closing bracket, so an array that has some is not taken for an empty
one. -/
theorem SpellsItems.head_ne_closeBracket {ds : List Document} {cs : List Char}
    (h : SpellsItems ds cs) (ts : List Token) :
    (itemsTokens ds ++ ts).head? ≠ some .closeBracket := by
  cases h with
  | one hd =>
      cases hd with
      | mk _ hd _ => exact hd.head_ne_closeBracket ts
  | cons hd hds =>
      cases hd with
      | mk _ hd _ =>
          rw [itemsTokens_cons hds.ne_nil, List.append_assoc]
          exact hd.head_ne_closeBracket _

/-- Members do not begin with a closing brace, so an object that has some is not taken for an empty
one. -/
theorem SpellsMembers.head_ne_closeBrace {ms : List (Option String × Document)} {cs : List Char}
    (h : SpellsMembers ms cs) (ts : List Token) :
    (membersTokens ms ++ ts).head? ≠ some .closeBrace := by
  cases h with
  | one hkey hd => simp [membersTokens]
  | cons hkey hd hms => simp [membersTokens_cons hms.ne_nil]

namespace Document

mutual

/-- **A value is read from its tokens**, up to their end. -/
theorem value_tokens {d : Document} {cs : List Char} {fuel : Nat} (hd : Spells d cs)
    (hfuel : d.tokens.length ≤ fuel) (depth : Nat) (r : List Token) :
    value fuel depth (d.tokens ++ r) = (d.limited depth, some r) := by
  match fuel, d, cs, hd with
  | 0, _, _, hd =>
      cases hd <;> simp [Document.tokens] at hfuel
  | _ + 1, _, _, .null => rfl
  | _ + 1, _, _, .bool b => rfl
  | _ + 1, _, _, .number _ => rfl
  | _ + 1, _, _, .string _ => rfl
  | _ + 1, _, _, .emptyArray _ => rfl
  | fuel + 1, _, _, .array hitems =>
      simp only [Document.tokens, List.length_cons, List.length_append, List.length_nil] at hfuel
      have hread := arrayItems_tokens hitems (Nat.le_of_succ_le_succ hfuel) (depth + 1) r
      rw [Document.tokens, List.cons_append, List.append_assoc]
      exact value_array (hitems.head_ne_closeBracket _) hread
  | _ + 1, _, _, .emptyObject _ => rfl
  | fuel + 1, _, _, .object hmembers =>
      simp only [Document.tokens, List.length_cons, List.length_append, List.length_nil] at hfuel
      have hread := objectMembers_tokens hmembers (Nat.le_of_succ_le_succ hfuel) (depth + 1) r
      rw [Document.tokens, List.cons_append, List.append_assoc]
      exact value_object (hmembers.head_ne_closeBrace _) hread

/-- The same with blanks around the document. -/
theorem value_tokens_text {d : Document} {cs : List Char} {fuel : Nat} (hd : SpellsText d cs)
    (hfuel : d.tokens.length ≤ fuel) (depth : Nat) (r : List Token) :
    value fuel depth (d.tokens ++ r) = (d.limited depth, some r) := by
  match cs, hd with
  | _, .mk _ hd _ => exact value_tokens hd hfuel depth r

/-- The items of an array are read of their tokens, up to the bracket after them. -/
theorem arrayItems_tokens {ds : List Document} {cs : List Char} {fuel : Nat}
    (hds : SpellsItems ds cs) (hfuel : (itemsTokens ds).length + 1 ≤ fuel) (depth : Nat)
    (r : List Token) :
    arrayItems fuel depth (itemsTokens ds ++ .closeBracket :: r) =
      (limitedItems depth ds, some r) := by
  match fuel, ds, cs, hds with
  | fuel + 1, _, _, .one hd =>
      exact arrayItems_last (value_tokens_text hd (Nat.le_of_succ_le_succ hfuel) depth _)
  | fuel + 1, d :: ds, _, .cons hd hds =>
      rw [itemsTokens_cons hds.ne_nil, List.length_append, List.length_cons] at hfuel
      have hfirst : d.tokens.length ≤ fuel := by omega
      have hothers : (itemsTokens ds).length + 1 ≤ fuel := by omega
      rw [itemsTokens_cons hds.ne_nil, List.append_assoc]
      exact arrayItems_comma (value_tokens_text hd hfirst depth _)
        (arrayItems_tokens hds hothers depth r)

/-- The members of an object are read of their tokens, up to the brace after them. -/
theorem objectMembers_tokens {ms : List (Option String × Document)} {cs : List Char} {fuel : Nat}
    (hms : SpellsMembers ms cs) (hfuel : (membersTokens ms).length + 1 ≤ fuel) (depth : Nat)
    (r : List Token) :
    objectMembers fuel depth (membersTokens ms ++ .closeBrace :: r) =
      (limitedMembers depth ms, some r) := by
  match fuel, ms, cs, hms with
  | fuel + 1, [(_, d)], _, .one hkey hd =>
      simp only [membersTokens, List.length_cons] at hfuel
      have hfirst : d.tokens.length ≤ fuel := by omega
      exact objectMembers_last (value_tokens_text hd hfirst depth _)
  | fuel + 1, (_, d) :: ms, _, .cons hkey hd hms =>
      rw [membersTokens_cons hms.ne_nil, List.length_cons, List.length_cons, List.length_append,
        List.length_cons] at hfuel
      have hfirst : d.tokens.length ≤ fuel := by omega
      have hothers : (membersTokens ms).length + 1 ≤ fuel := by omega
      rw [membersTokens_cons hms.ne_nil, List.cons_append, List.cons_append, List.append_assoc]
      exact objectMembers_comma (value_tokens_text hd hfirst depth _)
        (objectMembers_tokens hms hothers depth r)

end

/-- **The reader reads what the grammar says**, and nothing is left over. -/
theorem ofText_of_spellsText {d : Document} {cs : List Char} (h : SpellsText d cs) :
    ofText cs = (d.limited 0, true) := by
  have hread := value_tokens_text h (Nat.le_succ _) 0 []
  rw [List.append_nil] at hread
  rw [ofText, tokens_of_spellsText h, hread]

end Document

/-- The value of a JSON text is that of the document that it spells. -/
theorem parse?_of_spellsText {d : Document} {cs : List Char} (h : SpellsText d cs) :
    parse? (String.ofList cs) = (d.limited 0).toJson? := by
  rw [parse?, String.toList_ofList, Document.ofText_of_spellsText h]

end Scenarist.Json
