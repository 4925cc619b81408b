import Scenarist.Proofs.Toml.Number

/-!
# Strings of TOML Are Read Back

A string is written in one of four forms, between double or single quotes, on one line or over
several, as the characters in it allow (`stringForm_cases`). Between double quotes characters are
escaped where they have to be; between single quotes nothing is, and that form is taken only if
nothing has to be.

A string over several lines ends at three quotes, of which up to five may stand together: the first
two then belong to the string. So the reader must not find three quotes too early. Whatever follows,
the quotes at the start of what is left never make three (`escapedBody_lead`, `longestRun_lead`),
unless all that is left are quotes, at most two, which are read with those that close the string.

## Main results

* `escape?_escapeOf`: an escape stands for its character.
* `stringValue_stringForm`: **a string is read back**, in whatever form it was written.
* `keyPart_keyForm`: **a key is read back**, bare or between quotes.
-/

namespace Scenarist.Toml

variable {rest : List Char}

/-! ### Escapes -/

/-- The first characters are written with four hexadecimal digits, and read back of them. -/
theorem paddedHex_four : ∀ n < 128, (Text.paddedHex 4 n).length = 4 ∧
    Text.numberIn? 16 (Text.paddedHex 4 n) = some n := by decide

/-- A character of one byte is read from its code. -/
theorem escape?_code {c : Char} (hc : c.toNat < 128) (rest : List Char) :
    escape? ('u' :: (Text.paddedHex 4 c.toNat ++ rest)) = some (c, rest) := by
  obtain ⟨hlength, hvalue⟩ := paddedHex_four c.toNat hc
  have hvalid : c.toNat.isValidChar := .inl (by omega)
  rw [escape?, codePoint?, List.take_left' hlength, List.drop_left' hlength]
  simp only [hlength, hvalue, hvalid, ne_eq, not_true_eq_false, if_false, if_true,
    Option.bind_eq_bind, Option.bind_some, Char.ofNat_toNat]

/-- **An escape stands for its character**, and after the backslash is neither a blank nor the end
of a line. -/
theorem escape?_escapeOf {multiline : Bool} {quotes : Nat} {c : Char} {e : List Char}
    (h : escapeOf multiline quotes c = some e) :
    ∃ d ds, e = '\\' :: d :: ds ∧ isBlank d = false ∧ d ≠ '\n' ∧ d ≠ '\r' ∧
      ∀ rest, escape? (d :: (ds ++ rest)) = some (c, rest) := by
  have hletter (d c' : Char) (he : e = ['\\', d]) (hc : c = c') (hblank : isBlank d = false)
      (hline : d ≠ '\n') (hreturn : d ≠ '\r') (hd : ∀ rest, escape? (d :: rest) = some (c', rest)) :
      ∃ d ds, e = '\\' :: d :: ds ∧ isBlank d = false ∧ d ≠ '\n' ∧ d ≠ '\r' ∧
        ∀ rest, escape? (d :: (ds ++ rest)) = some (c, rest) :=
    ⟨d, [], he, hblank, hline, hreturn, fun rest => by rw [List.nil_append, hd, hc]⟩
  have hcode (n : Nat) (hn : n < 55296) (hc : c.toNat = n) : c = Char.ofNat n := by
    rw [← hc, Char.ofNat_toNat]
  rw [escapeOf] at h
  split at h
  · next hc =>
    split at h
    · cases h
    · exact hletter '"' '"' (Option.some.inj h).symm hc rfl (by decide) (by decide) fun _ => rfl
  split at h
  · next hc =>
    exact hletter '\\' '\\' (Option.some.inj h).symm hc rfl (by decide) (by decide) fun _ => rfl
  split at h
  · next hc =>
    exact hletter 't' '\t' (Option.some.inj h).symm hc rfl (by decide) (by decide) fun _ => rfl
  split at h
  · next hc =>
    split at h
    · cases h
    · exact hletter 'n' '\n' (Option.some.inj h).symm hc rfl (by decide) (by decide) fun _ => rfl
  split at h
  · next hc =>
    exact hletter 'r' '\r' (Option.some.inj h).symm hc rfl (by decide) (by decide) fun _ => rfl
  split at h
  · next hc =>
    exact hletter 'b' (Char.ofNat 8) (Option.some.inj h).symm (hcode 8 (by decide) hc) rfl
      (by decide) (by decide) fun _ => rfl
  split at h
  · next hc =>
    exact hletter 'f' (Char.ofNat 12) (Option.some.inj h).symm (hcode 12 (by decide) hc) rfl
      (by decide) (by decide) fun _ => rfl
  split at h
  · next hc =>
    rw [Bool.or_eq_true, decide_eq_true_eq, decide_eq_true_eq] at hc
    exact ⟨'u', _, (Option.some.inj h).symm, rfl, by decide, by decide,
      escape?_code (by omega)⟩
  · cases h

/-- A character that is not escaped. -/
structure Unescaped (multiline : Bool) (quotes : Nat) (c : Char) : Prop where
  quote : c = '"' → multiline = true ∧ quotes < 2
  slash : c ≠ '\\'
  tab : c ≠ '\t'
  line : c = '\n' → multiline = true
  carriage : c ≠ '\r'
  control : c ≠ '\n' → isControl c = false

/-- A character for which nothing else is written stands for itself. -/
theorem unescaped {multiline : Bool} {quotes : Nat} {c : Char}
    (h : escapeOf multiline quotes c = none) : Unescaped multiline quotes c := by
  rw [escapeOf] at h
  split at h
  · next hc =>
    subst hc
    split at h
    · next hquotes =>
      rw [Bool.and_eq_true, decide_eq_true_eq] at hquotes
      exact ⟨fun _ => hquotes, by decide, by decide, fun hc => absurd hc (by decide), by decide,
        fun _ => rfl⟩
    · cases h
  next hquote =>
  split at h
  · cases h
  next hslash =>
  split at h
  · cases h
  next htab =>
  split at h
  · next hline =>
    subst hline
    split at h
    · next hmultiline =>
      exact ⟨fun hc => absurd hc hquote, hslash, htab, fun _ => hmultiline, by decide,
        fun hc => absurd rfl hc⟩
    · cases h
  next hline =>
  split at h
  · cases h
  next hreturn =>
  split at h
  · cases h
  split at h
  · cases h
  split at h
  · cases h
  next hcontrol =>
  rw [Bool.or_eq_true, decide_eq_true_eq, decide_eq_true_eq, not_or] at hcontrol
  refine ⟨fun hc => absurd hc hquote, hslash, htab, fun hc => absurd hc hline, hreturn, fun _ => ?_⟩
  simp [isControl, hcontrol]

/-! ### Strings on one line -/

/-- Where something else is written for a character, the count of quotes begins anew. -/
theorem escapedBody_cons_some {multiline : Bool} {quotes : Nat} {c : Char} {e : List Char}
    (h : escapeOf multiline quotes c = some e) (cs : List Char) :
    escapedBody multiline quotes (c :: cs) = e ++ escapedBody multiline 0 cs := by
  rw [escapedBody, h]

/-- Where a character is written as it is, quotes are counted on. -/
theorem escapedBody_cons_none {multiline : Bool} {quotes : Nat} {c : Char}
    (h : escapeOf multiline quotes c = none) (cs : List Char) :
    escapedBody multiline quotes (c :: cs) =
      c :: escapedBody multiline (if c = '"' then quotes + 1 else 0) cs := by
  rw [escapedBody, h]

/-- A string with escapes is read to its closing quote. -/
theorem basicString_escapedBody (cs acc : List Char) (quotes : Nat) {fuel : Nat}
    (hfuel : cs.length < fuel) :
    basicString acc fuel (escapedBody false quotes cs ++ '"' :: rest) =
      some (String.ofList (acc.reverse ++ cs), rest) := by
  induction cs generalizing acc quotes fuel with
  | nil =>
      obtain ⟨fuel, rfl⟩ := Nat.exists_eq_succ_of_ne_zero (Nat.ne_zero_of_lt hfuel)
      rw [escapedBody, List.nil_append, basicString, List.append_nil]
  | cons c cs ih =>
      obtain ⟨fuel, rfl⟩ := Nat.exists_eq_succ_of_ne_zero (Nat.ne_zero_of_lt hfuel)
      have hfuel' : cs.length < fuel := Nat.lt_of_succ_lt_succ hfuel
      have hpush : acc.reverse ++ c :: cs = (c :: acc).reverse ++ cs := by simp
      cases h : escapeOf false quotes c with
      | some e =>
          obtain ⟨d, ds, rfl, -, -, -, hescape⟩ := escape?_escapeOf h
          rw [escapedBody_cons_some h, List.append_assoc, List.cons_append, List.cons_append,
            basicString, hescape, hpush]
          exact ih (c :: acc) 0 hfuel'
      | none =>
          have hplain := unescaped h
          have hquote : c ≠ '"' := fun hc => Bool.false_ne_true (hplain.quote hc).1
          have hline : c ≠ '\n' := fun hc => Bool.false_ne_true (hplain.line hc)
          rw [escapedBody_cons_none h, List.cons_append, basicString, hplain.control hline,
            if_neg Bool.false_ne_true, hpush]
          · exact ih (c :: acc) _ hfuel'
          · exact hquote
          · exact hplain.slash

/-- A string without escapes is read to its closing quote. -/
theorem literalString_append (cs acc : List Char) (hquote : '\'' ∉ cs)
    (hcontrol : cs.any isControl = false) :
    literalString acc (cs ++ '\'' :: rest) = some (String.ofList (acc.reverse ++ cs), rest) := by
  induction cs generalizing acc with
  | nil => rw [List.nil_append, literalString, List.append_nil]
  | cons c cs ih =>
      rw [List.any_cons, Bool.or_eq_false_iff] at hcontrol
      rw [List.mem_cons, not_or] at hquote
      have hpush : acc.reverse ++ c :: cs = (c :: acc).reverse ++ cs := by simp
      rw [List.cons_append, literalString, hcontrol.1, if_neg Bool.false_ne_true, hpush]
      · exact ih (c :: acc) hquote.2 hcontrol.2
      · exact fun hc => hquote.1 hc.symm

/-! ### Strings over several lines -/

/-- How many quotes in a row a text begins with. -/
def lead (q : Char) (cs : List Char) : Nat := (cs.takeWhile (· == q)).length

/-- One more character in front leads. -/
theorem lead_cons_self (q : Char) (cs : List Char) : lead q (q :: cs) = lead q cs + 1 := by
  simp [lead]

/-- Another character in front leaves nothing to lead. -/
theorem lead_cons_of_ne {q c : Char} (h : c ≠ q) (cs : List Char) : lead q (c :: cs) = 0 := by
  simp [lead, h]

/-- Fewer than three quotes do not close a string. -/
theorem closingQuotes?_eq_none {q : Char} {cs : List Char} (h : lead q cs < 3) :
    closingQuotes? q cs = none := if_pos h

/-- Up to two quotes before the closing ones belong to the string. -/
theorem closingQuotes?_replicate {q : Char} {k : Nat} (hk : k ≤ 2) (hrest : rest.head? ≠ some q) :
    closingQuotes? q (List.replicate k q ++ q :: q :: q :: rest) =
      some (List.replicate k q, rest) := by
  have hsplit : List.replicate k q ++ q :: q :: q :: rest = List.replicate (k + 3) q ++ rest := by
    rw [List.replicate_add, List.append_assoc]
    rfl
  have hrun : (List.replicate (k + 3) q ++ rest).takeWhile (· == q) = List.replicate (k + 3) q := by
    rw [List.takeWhile_append_of_pos (by simp)]
    cases rest with
    | nil => simp
    | cons c rest =>
        have hc : (c == q) = false := beq_eq_false_iff_ne.2 fun hc => hrest (congrArg some hc)
        simp [hc]
  rw [hsplit, closingQuotes?]
  dsimp only
  rw [hrun, List.length_replicate, if_neg (by omega), show min (k + 3 - 3) 2 = k by omega,
    List.drop_left' (by simp)]

/-- The inside of a string over several lines is either all quotes, at most two with those before
it, or begins with fewer than would make three. -/
theorem escapedBody_lead (cs : List Char) (quotes : Nat) (hquotes : quotes ≤ 2) :
    (∃ k, cs = List.replicate k '"' ∧ quotes + k ≤ 2 ∧
      escapedBody true quotes cs = List.replicate k '"') ∨
    ∀ rest, quotes + lead '"' (escapedBody true quotes cs ++ rest) ≤ 2 := by
  induction cs generalizing quotes with
  | nil => exact .inl ⟨0, rfl, by omega, rfl⟩
  | cons c cs ih =>
      cases h : escapeOf true quotes c with
      | some e =>
          obtain ⟨d, ds, rfl, -, -, -, -⟩ := escape?_escapeOf h
          refine .inr fun rest => ?_
          rw [escapedBody_cons_some h, List.append_assoc, List.cons_append,
            lead_cons_of_ne (by decide)]
          omega
      | none =>
          rw [escapedBody_cons_none h]
          by_cases hc : c = '"'
          · subst hc
            have hlt := ((unescaped h).quote rfl).2
            rw [if_pos rfl]
            rcases ih (quotes + 1) (by omega) with ⟨k, rfl, hk, hbody⟩ | hrun
            · exact .inl ⟨k + 1, rfl, by omega, by rw [hbody]; rfl⟩
            · refine .inr fun rest => ?_
              have hle := hrun rest
              rw [List.cons_append, lead_cons_self]
              omega
          · refine .inr fun rest => ?_
            rw [List.cons_append, lead_cons_of_ne hc]
            omega

section Steps

variable {q : Char} {escapes : Bool} {acc cs : List Char} {fuel : Nat}

/-- At most two quotes that are left before the closing ones are read with them. -/
theorem multilineString_close {k : Nat} (hk : k ≤ 2) (hrest : rest.head? ≠ some q) :
    multilineString q escapes acc (fuel + 1) (List.replicate k q ++ q :: q :: q :: rest) =
      some (String.ofList (acc.reverse ++ List.replicate k q), rest) := by
  have hclose := closingQuotes?_replicate hk hrest
  obtain ⟨cs, hcs⟩ : ∃ cs, List.replicate k q ++ q :: q :: q :: rest = q :: cs := by
    cases k with
    | zero => exact ⟨_, rfl⟩
    | succ k => exact ⟨_, rfl⟩
  rw [hcs] at hclose ⊢
  rw [multilineString, if_pos rfl, hclose]

/-- A quote that does not close the string belongs to it. -/
theorem multilineString_quote (hlead : lead q (q :: cs) < 3) :
    multilineString q escapes acc (fuel + 1) (q :: cs) =
      multilineString q escapes (q :: acc) fuel cs := by
  rw [multilineString, if_pos rfl, closingQuotes?_eq_none hlead]

/-- A character that is not escaped belongs to the string; a line end is the only control character
that may stand in it. -/
theorem multilineString_plain {c : Char} (hquote : c ≠ q) (hslash : (escapes && c = '\\') = false)
    (hreturn : c ≠ '\r') (hcontrol : c ≠ '\n' → isControl c = false) :
    multilineString q escapes acc (fuel + 1) (c :: cs) =
      multilineString q escapes (c :: acc) fuel cs := by
  rw [multilineString, if_neg hquote, hslash, if_neg Bool.false_ne_true]
  by_cases hline : c = '\n'
  · subst hline
    rw [lineEnd?]
  · rw [lineEnd?]
    · dsimp only
      rw [hcontrol hline, if_neg Bool.false_ne_true]
    · exact fun _ heq => hline (List.cons.inj heq).1
    · exact fun _ heq => hreturn (List.cons.inj heq).1

/-- A backslash and what it stands for give one character of the string, unless a blank or the end
of the line follows the backslash. -/
theorem multilineString_escape {c d : Char} {after : List Char} (hblank : isBlank d = false)
    (hline : d ≠ '\n') (hreturn : d ≠ '\r') (hescape : escape? (d :: cs) = some (c, after)) :
    multilineString '"' true acc (fuel + 1) ('\\' :: d :: cs) =
      multilineString '"' true (c :: acc) fuel after := by
  have hcontinue : continuation? (d :: cs) = none := by
    rw [continuation?, List.dropWhile_cons_of_neg (by rw [hblank]; decide), lineEnd?]
    · exact fun _ heq => hline (List.cons.inj heq).1
    · exact fun _ heq => hreturn (List.cons.inj heq).1
  rw [multilineString, if_neg (by decide), if_pos (by decide), hcontinue]
  dsimp only
  rw [hescape]

end Steps

/-- A string over several lines is read to its closing quotes. -/
theorem multilineString_escapedBody (cs acc : List Char) {quotes fuel : Nat}
    (hquotes : quotes ≤ 2) (hfuel : cs.length < fuel) (hrest : rest.head? ≠ some '"') :
    multilineString '"' true acc fuel (escapedBody true quotes cs ++ '"' :: '"' :: '"' :: rest) =
      some (String.ofList (acc.reverse ++ cs), rest) := by
  induction cs generalizing acc quotes fuel with
  | nil =>
      obtain ⟨fuel, rfl⟩ := Nat.exists_eq_succ_of_ne_zero (Nat.ne_zero_of_lt hfuel)
      rw [escapedBody]
      exact multilineString_close (k := 0) (by omega) hrest
  | cons c cs ih =>
      obtain ⟨fuel, rfl⟩ := Nat.exists_eq_succ_of_ne_zero (Nat.ne_zero_of_lt hfuel)
      have hfuel' : cs.length < fuel := Nat.lt_of_succ_lt_succ hfuel
      have hpush : acc.reverse ++ c :: cs = (c :: acc).reverse ++ cs := by simp
      cases h : escapeOf true quotes c with
      | some e =>
          obtain ⟨d, ds, rfl, hblank, hline, hreturn, hescape⟩ := escape?_escapeOf h
          rw [escapedBody_cons_some h, List.append_assoc, List.cons_append, List.cons_append,
            multilineString_escape hblank hline hreturn (hescape _), hpush]
          exact ih (c :: acc) (by omega) hfuel'
      | none =>
          have hplain := unescaped h
          by_cases hc : c = '"'
          · subst hc
            have hlt := (hplain.quote rfl).2
            rcases escapedBody_lead ('"' :: cs) _ hquotes with ⟨k, hcs, hk, hbody⟩ | hrun
            · rw [hbody, hcs]
              exact multilineString_close (by omega) hrest
            · have hshort := hrun ('"' :: '"' :: '"' :: rest)
              rw [escapedBody_cons_none h, if_pos rfl, List.cons_append] at hshort ⊢
              rw [multilineString_quote (by omega), hpush]
              exact ih ('"' :: acc) (by omega) hfuel'
          · rw [escapedBody_cons_none h, if_neg hc, List.cons_append,
              multilineString_plain hc (by simp [hplain.slash]) hplain.carriage hplain.control,
              hpush]
            exact ih (c :: acc) (by omega) hfuel'

/-- A text whose longest run of quotes is at most two is either all quotes or begins with fewer than
would make three. -/
theorem longestRun_lead {q : Char} {cs : List Char} {run : Nat} (h : longestRun q run cs ≤ 2) :
    (∃ k, cs = List.replicate k q ∧ run + k ≤ 2) ∨ ∀ rest, run + lead q (cs ++ rest) ≤ 2 := by
  induction cs generalizing run with
  | nil => exact .inl ⟨0, rfl, h⟩
  | cons c cs ih =>
      rw [longestRun] at h
      split at h
      · next hc =>
        subst hc
        rcases ih h with ⟨k, rfl, hk⟩ | hrun
        · exact .inl ⟨k + 1, rfl, by omega⟩
        · refine .inr fun rest => ?_
          have hle := hrun rest
          rw [List.cons_append, lead_cons_self]
          omega
      · next hc =>
        refine .inr fun rest => ?_
        rw [List.cons_append, lead_cons_of_ne hc]
        omega

/-- A character that needs no escape may stand in a string, a line end only over several lines. -/
theorem isControl_of_needsCode {c : Char} (h : needsCode c = false) (hline : c ≠ '\n') :
    isControl c = false := by
  have hne : (c != '\n') = true := bne_iff_ne.2 hline
  rw [needsCode, hne, Bool.and_true] at h
  exact h

/-- A string over several lines without escapes is read to its closing quotes. -/
theorem multilineString_append (cs acc : List Char) {run fuel : Nat}
    (hrun : longestRun '\'' run cs ≤ 2) (hcontrol : cs.any needsCode = false)
    (hfuel : cs.length < fuel) (hrest : rest.head? ≠ some '\'') :
    multilineString '\'' false acc fuel (cs ++ '\'' :: '\'' :: '\'' :: rest) =
      some (String.ofList (acc.reverse ++ cs), rest) := by
  induction cs generalizing acc run fuel with
  | nil =>
      obtain ⟨fuel, rfl⟩ := Nat.exists_eq_succ_of_ne_zero (Nat.ne_zero_of_lt hfuel)
      exact multilineString_close (k := 0) (by omega) hrest
  | cons c cs ih =>
      obtain ⟨fuel, rfl⟩ := Nat.exists_eq_succ_of_ne_zero (Nat.ne_zero_of_lt hfuel)
      have hfuel' : cs.length < fuel := Nat.lt_of_succ_lt_succ hfuel
      have hpush : acc.reverse ++ c :: cs = (c :: acc).reverse ++ cs := by simp
      rw [List.any_cons, Bool.or_eq_false_iff] at hcontrol
      by_cases hc : c = '\''
      · subst hc
        rcases longestRun_lead hrun with ⟨k, hcs, hk⟩ | hlead
        · rw [hcs]
          exact multilineString_close (by omega) hrest
        · have hshort := hlead ('\'' :: '\'' :: '\'' :: rest)
          rw [longestRun, if_pos rfl] at hrun
          rw [List.cons_append] at hshort ⊢
          rw [multilineString_quote (by omega), hpush]
          exact ih ('\'' :: acc) hrun hcontrol.2 hfuel'
      · have hreturn : c ≠ '\r' := by
          rintro rfl
          exact absurd hcontrol.1 (by decide)
        rw [longestRun, if_neg hc, Nat.max_le] at hrun
        rw [List.cons_append, multilineString_plain hc (Bool.false_and _) hreturn
          (isControl_of_needsCode hcontrol.1), hpush]
        exact ih (c :: acc) hrun.2 hcontrol.2 hfuel'

/-! ### The forms of a string -/

/-- An escaped text is no shorter than the text. -/
theorem length_escapedBody (multiline : Bool) (cs : List Char) (quotes : Nat) :
    cs.length ≤ (escapedBody multiline quotes cs).length := by
  induction cs generalizing quotes with
  | nil => exact Nat.zero_le _
  | cons c cs ih =>
      cases h : escapeOf multiline quotes c with
      | some e =>
          obtain ⟨d, ds, rfl, -, -, -, -⟩ := escape?_escapeOf h
          rw [escapedBody_cons_some h, List.length_append, List.length_cons, List.length_cons,
            List.length_cons]
          have hle := ih 0
          omega
      | none =>
          rw [escapedBody_cons_none h, List.length_cons, List.length_cons]
          have hle := ih (if c = '"' then quotes + 1 else 0)
          omega

/-- What is written first of a text is neither a carriage return nor, on one line, a quote; a line
end only over several lines. -/
theorem escapedBody_head (multiline : Bool) (quotes : Nat) (c : Char) (cs : List Char) :
    ∃ d ds, escapedBody multiline quotes (c :: cs) = d :: ds ∧ (multiline = false → d ≠ '"') ∧
      d ≠ '\r' ∧ (d = '\n' → c = '\n') := by
  cases h : escapeOf multiline quotes c with
  | some e =>
      obtain ⟨d, ds, rfl, -, -, -, -⟩ := escape?_escapeOf h
      exact ⟨_, _, escapedBody_cons_some h cs, fun _ => by decide, by decide,
        fun hd => absurd hd (by decide)⟩
  | none =>
      refine ⟨_, _, escapedBody_cons_none h cs, fun hmultiline hc => ?_, (unescaped h).carriage, id⟩
      have hquote := ((unescaped h).quote hc).1
      rw [hmultiline] at hquote
      exact Bool.false_ne_true hquote

/-- **What stands between quotes is read back.** -/
theorem stringValue_basicForm (cs : List Char) (hrest : rest.head? ≠ some '"') :
    stringValue (basicForm cs ++ rest) = some (String.ofList cs, rest) := by
  have htext : basicForm cs ++ rest = '"' :: (escapedBody false 0 cs ++ '"' :: rest) := by
    simp [basicForm]
  have hlength := length_escapedBody false cs 0
  have hfuel : cs.length < (escapedBody false 0 cs ++ '"' :: rest).length + 1 := by
    rw [List.length_append]
    omega
  have hread : basicString [] _ (escapedBody false 0 cs ++ '"' :: rest) =
      some (String.ofList cs, rest) := basicString_escapedBody cs [] 0 hfuel
  rw [htext, stringValue]
  · exact hread
  · rintro cs' htail
    cases cs with
    | nil => exact hrest (congrArg List.head? (List.cons.inj htail).2)
    | cons c cs =>
        obtain ⟨d, ds, hbody, hd, -, -⟩ := escapedBody_head false 0 c cs
        rw [hbody] at htail
        exact hd rfl (List.cons.inj htail).1

/-- **What stands between apostrophes is read back** if it can stand there. -/
theorem stringValue_literalForm {cs : List Char} (hquote : '\'' ∉ cs)
    (hcontrol : cs.any isControl = false) (hrest : rest.head? ≠ some '\'') :
    stringValue (literalForm cs ++ rest) = some (String.ofList cs, rest) := by
  have htext : literalForm cs ++ rest = '\'' :: (cs ++ '\'' :: rest) := by simp [literalForm]
  rw [htext, stringValue]
  · exact literalString_append cs [] hquote hcontrol
  · rintro cs' htail
    cases cs with
    | nil => exact hrest (congrArg List.head? (List.cons.inj htail).2)
    | cons c cs => exact hquote (by simp [(List.cons.inj htail).1])

/-- A line end that was put before a text is dropped, and where none was put there is none. -/
theorem dropLineEnd_append {newline : Bool} {cs : List Char}
    (h : newline = false → ∀ c, cs.head? = some c → c ≠ '\n' ∧ c ≠ '\r') :
    dropLineEnd ((if newline then ['\n'] else []) ++ cs) = cs := by
  cases newline with
  | true => rfl
  | false =>
      change dropLineEnd cs = cs
      rw [dropLineEnd, lineEnd?]
      · rfl
      · rintro cs' rfl
        exact (h rfl '\n' rfl).1 rfl
      · rintro cs' rfl
        exact (h rfl '\r' rfl).2 rfl

/-- **What stands between three quotes is read back.** -/
theorem stringValue_multilineForm {newline : Bool} {cs : List Char}
    (hnewline : newline = false → '\n' ∉ cs) (hrest : rest.head? ≠ some '"') :
    stringValue (multilineForm newline cs ++ rest) = some (String.ofList cs, rest) := by
  have htext : multilineForm newline cs ++ rest = '"' :: '"' :: '"' ::
      ((if newline then ['\n'] else []) ++
        (escapedBody true 0 cs ++ '"' :: '"' :: '"' :: rest)) := by
    unfold multilineForm
    simp
  have hbody : newline = false → ∀ c, (escapedBody true 0 cs ++ '"' :: '"' :: '"' :: rest).head? =
      some c → c ≠ '\n' ∧ c ≠ '\r' := by
    rintro hfalse c hc
    cases cs with
    | nil =>
        cases hc
        decide
    | cons d cs =>
        obtain ⟨e, es, hbody, -, hreturn, hline⟩ := escapedBody_head true 0 d cs
        rw [hbody] at hc
        cases hc
        exact ⟨fun he => hnewline hfalse (by rw [hline he]; exact List.mem_cons_self), hreturn⟩
  have hlength := length_escapedBody true cs 0
  rw [htext, stringValue, dropLineEnd_append hbody]
  refine multilineString_escapedBody cs [] (by omega) ?_ hrest
  rw [List.length_append, List.length_append]
  omega

/-- **What stands between three apostrophes is read back** if it can stand there. -/
theorem stringValue_multilineLiteralForm {newline : Bool} {cs : List Char}
    (hnewline : newline = false → '\n' ∉ cs) (hrun : longestRun '\'' 0 cs ≤ 2)
    (hcontrol : cs.any needsCode = false) (hrest : rest.head? ≠ some '\'') :
    stringValue (multilineLiteralForm newline cs ++ rest) = some (String.ofList cs, rest) := by
  have htext : multilineLiteralForm newline cs ++ rest = '\'' :: '\'' :: '\'' ::
      ((if newline then ['\n'] else []) ++ (cs ++ '\'' :: '\'' :: '\'' :: rest)) := by
    unfold multilineLiteralForm
    simp
  have hbody : newline = false → ∀ c, (cs ++ '\'' :: '\'' :: '\'' :: rest).head? =
      some c → c ≠ '\n' ∧ c ≠ '\r' := by
    rintro hfalse c hc
    cases cs with
    | nil =>
        cases hc
        decide
    | cons d cs =>
        cases hc
        rw [List.any_cons, Bool.or_eq_false_iff] at hcontrol
        refine ⟨?_, ?_⟩
        · rintro rfl
          exact hnewline hfalse List.mem_cons_self
        · rintro rfl
          exact absurd hcontrol.1 (by decide)
  rw [htext, stringValue, dropLineEnd_append hbody]
  refine multilineString_append cs [] hrun hcontrol ?_ hrest
  rw [List.length_append, List.length_append]
  omega

/-- The longest run is no shorter than the one that is going on. -/
theorem le_longestRun (q : Char) (cs : List Char) (run : Nat) : run ≤ longestRun q run cs := by
  induction cs generalizing run with
  | nil => exact le_rfl
  | cons c cs ih =>
      rw [longestRun]
      split
      · exact (Nat.le_succ run).trans (ih (run + 1))
      · exact Nat.le_max_left _ _

/-- Where the longest run of a character is empty, the character is not. -/
theorem not_mem_of_longestRun {q : Char} {cs : List Char} {run : Nat}
    (h : longestRun q run cs = 0) : q ∉ cs := by
  induction cs generalizing run with
  | nil => exact List.not_mem_nil
  | cons c cs ih =>
      rw [longestRun] at h
      split at h
      · have hle := le_longestRun q cs (run + 1)
        omega
      · next hc =>
        rw [List.mem_cons, not_or]
        have hrest : longestRun q 0 cs = 0 := by omega
        exact ⟨fun hq => hc hq.symm, ih hrest⟩

/-- A text on one line has no control characters if none has to be written by its number. -/
theorem any_isControl {cs : List Char} (hcontrol : cs.any needsCode = false) (hline : '\n' ∉ cs) :
    cs.any isControl = false := by
  rw [List.any_eq_false] at hcontrol ⊢
  intro c hc
  rw [Bool.not_eq_true]
  refine isControl_of_needsCode (Bool.not_eq_true _ ▸ hcontrol c hc) ?_
  rintro rfl
  exact hline hc

/-- A text without the trait has no newline. -/
theorem not_mem_of_newline (cs : List Char) (h : (StringTraits.of cs).newline = false) :
    '\n' ∉ cs := fun hmem => by
  have hcontains : cs.contains '\n' = true := List.contains_iff_mem.2 hmem
  exact Bool.false_ne_true (h.symm.trans hcontains)

/-- The forms that a string may have, and when. -/
theorem stringForm_cases (s : String) :
    stringForm s = basicForm s.toList ∨
    (stringForm s = literalForm s.toList ∧ '\'' ∉ s.toList ∧
      s.toList.any isControl = false) ∨
    (∃ newline, stringForm s = multilineForm newline s.toList ∧
      (newline = false → '\n' ∉ s.toList)) ∨
    ∃ newline, stringForm s = multilineLiteralForm newline s.toList ∧
      (newline = false → '\n' ∉ s.toList) ∧ longestRun '\'' 0 s.toList ≤ 2 ∧
        s.toList.any needsCode = false := by
  have hline := not_mem_of_newline s.toList
  rw [stringForm]
  split
  · exact .inl rfl
  split
  · next h =>
    simp only [Bool.and_eq_true, Bool.not_eq_true', decide_eq_true_eq] at h
    exact .inr (.inl ⟨rfl, not_mem_of_longestRun h.1.2, any_isControl h.1.1 (hline h.2)⟩)
  split
  · exact .inr (.inr (.inl ⟨_, rfl, hline⟩))
  split
  · next h =>
    simp only [Bool.and_eq_true, Bool.not_eq_true', decide_eq_true_eq] at h
    exact .inr (.inr (.inr ⟨_, rfl, hline, h.2, h.1⟩))
  split
  · exact .inr (.inr (.inl ⟨true, rfl, fun h => absurd h (by decide)⟩))
  · exact .inl rfl

/-- **A string is read back**, whatever its form. -/
theorem stringValue_stringForm (s : String) (hrest : Stops rest) :
    stringValue (stringForm s ++ rest) = some (s, rest) := by
  have hdouble : rest.head? ≠ some '"' := hrest.head?_ne (by decide)
  have hsingle : rest.head? ≠ some '\'' := hrest.head?_ne (by decide)
  have hread : stringValue (stringForm s ++ rest) = some (String.ofList s.toList, rest) := by
    rcases stringForm_cases s with h | ⟨h, hquote, hcontrol⟩ | ⟨newline, h, hline⟩ |
        ⟨newline, h, hline, hrun, hcontrol⟩
    · rw [h, stringValue_basicForm _ hdouble]
    · rw [h, stringValue_literalForm hquote hcontrol hsingle]
    · rw [h, stringValue_multilineForm hline hdouble]
    · rw [h, stringValue_multilineLiteralForm hline hrun hcontrol hsingle]
  rw [hread, String.ofList_toList]

/-- A string begins with a quote. -/
theorem exists_stringForm (s : String) : ∃ c cs, stringForm s = c :: cs ∧ (c = '"' ∨ c = '\'') := by
  rcases stringForm_cases s with h | ⟨h, -⟩ | ⟨newline, h, -⟩ | ⟨newline, h, -⟩
  · exact ⟨_, _, h, .inl rfl⟩
  · exact ⟨_, _, h, .inr rfl⟩
  · exact ⟨_, _, h, .inl rfl⟩
  · exact ⟨_, _, h, .inr rfl⟩

/-- Where a string begins, a string is read. -/
theorem value_stringForm (s : String) (hrest : Stops rest) (fuel depth : Nat) :
    value (fuel + 1) depth (stringForm s ++ rest) = some (.string s, rest) := by
  have hread := stringValue_stringForm s hrest
  obtain ⟨c, cs, hcs, rfl | rfl⟩ := exists_stringForm s
  · rw [hcs, List.cons_append] at hread ⊢
    rw [value, hread]
    rfl
  · rw [hcs, List.cons_append] at hread ⊢
    rw [value, hread]
    rfl

/-! ### Keys -/

/-- A key without quotes is read up to a character that cannot belong to it. -/
theorem keyPart_bare {cs : List Char} (hne : cs ≠ []) (hall : cs.all isBare = true)
    (hrest : ∀ c, rest.head? = some c → isBare c = false) :
    keyPart (cs ++ rest) = some (String.ofList cs, rest) := by
  have hspan := Spec.span_append_of_stop (p := isBare) hall hrest
  obtain ⟨c, cs, rfl⟩ := List.exists_cons_of_ne_nil hne
  have hc : isBare c = true := List.all_eq_true.1 hall c List.mem_cons_self
  have hquote (q : Char) (hq : isBare q = false) (cs' : List Char) :
      c :: (cs ++ rest) ≠ q :: cs' := fun heq => by
    rw [(List.cons.inj heq).1, hq] at hc
    cases hc
  rw [List.cons_append] at hspan ⊢
  rw [keyPart, hspan]
  · exact hquote '"' rfl
  · exact hquote '\'' rfl

/-- A key between double quotes is read to the closing one. -/
theorem keyPart_basicForm (cs rest : List Char) :
    keyPart (basicForm cs ++ rest) = some (String.ofList cs, rest) := by
  have htext : basicForm cs ++ rest = '"' :: (escapedBody false 0 cs ++ '"' :: rest) := by
    simp [basicForm]
  have hlength := length_escapedBody false cs 0
  rw [htext, keyPart, basicString_escapedBody]
  · rfl
  · rw [List.length_append]
    omega

/-- A key between single quotes is read to the closing one. -/
theorem keyPart_literalForm {cs : List Char} (hquote : '\'' ∉ cs)
    (hcontrol : cs.any isControl = false) (rest : List Char) :
    keyPart (literalForm cs ++ rest) = some (String.ofList cs, rest) := by
  have htext : literalForm cs ++ rest = '\'' :: (cs ++ '\'' :: rest) := by simp [literalForm]
  rw [htext, keyPart]
  exact literalString_append cs [] hquote hcontrol

/-- **A key is read back** if no character follows that could belong to it. -/
theorem keyPart_keyForm (s : String) (hrest : ∀ c, rest.head? = some c → isBare c = false) :
    keyPart (keyForm s ++ rest) = some (s, rest) := by
  have hread : keyPart (keyForm s ++ rest) = some (String.ofList s.toList, rest) := by
    rw [keyForm]
    split
    · next h =>
      rw [Bool.and_eq_true, Bool.not_eq_true', List.isEmpty_eq_false_iff] at h
      exact keyPart_bare h.1 h.2 hrest
    split
    · exact keyPart_basicForm _ _
    split
    · next h =>
      simp only [Bool.and_eq_true, Bool.not_eq_true', decide_eq_true_eq] at h
      have hline := not_mem_of_newline _ h.2
      exact keyPart_literalForm (not_mem_of_longestRun h.1.2) (any_isControl h.1.1 hline) rest
    · exact keyPart_basicForm _ _
  rw [hread, String.ofList_toList]

end Scenarist.Toml
