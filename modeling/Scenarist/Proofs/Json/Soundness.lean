import Scenarist.Proofs.Json.Rest

/-!
# What the Reader Accepts

The reader of JSON against the grammar, from the side of the reader: a text that it reads to the
end is a JSON text, and the document is the one that the text spells. With
`Document.ofText_of_spellsText` the reader accepts exactly the JSON texts
(`Document.ofText_eq_true_iff`).

Each scanner cuts a piece of the grammar off the front of its text. That the piece has the value
which was read is clear for literals, as they end with a quote. A number has no such end, and so
the lemmas about its parts also say that the part is read in the same way when something else
follows it.

## Main results

* `exists_isNumber`, `exists_literalBody`, `exists_token`: what a scanner reads is of the grammar.
* `exists_value`: **so is a value that is read to its end**.
* `Document.ofText_eq_true_iff`: **exactly the JSON texts are accepted**.
-/

namespace Scenarist.Json

variable {cs rest : List Char}

/-! ### Numbers -/

/-- The digits in front are digits, and the rest is what comes after them. -/
theorem spanDigits_eq {ds : List Char} (h : spanDigits cs = (ds, rest)) :
    cs = ds ++ rest ∧ ds.all Char.isDigit = true := by
  rw [spanDigits, List.span_eq_takeWhile_dropWhile] at h
  cases h
  exact ⟨List.takeWhile_append_dropWhile.symm, List.all_takeWhile⟩

/-- A whole part that is read is one of the grammar. -/
theorem exists_whole {whole : List Char} (h : wholePart cs = some (whole, rest)) :
    cs = whole ++ rest ∧ Digits whole ∧ (whole = ['0'] ∨ whole.head? ≠ some '0') := by
  rw [wholePart] at h
  split at h
  next digits rest' hspan =>
  obtain ⟨rfl, hdigits⟩ := spanDigits_eq hspan
  split at h
  · cases h
  · cases h
  · next hne hzero =>
    cases h
    refine ⟨rfl, ⟨hne, hdigits⟩, ?_⟩
    rcases whole with _ | ⟨c, _ | ⟨d, whole⟩⟩
    · exact absurd rfl hne
    · simpa using eq_or_ne c '0'
    · refine .inr fun hc => ?_
      cases hc
      exact hzero d whole rfl

/-- A fraction that is read is one of the grammar, and would be read before anything that does not
continue it. -/
theorem exists_fraction {f : Option (List Char)} (h : fractionPart cs = some (f, rest)) :
    ∃ fraction, cs = fraction ++ rest ∧ Fraction fraction ∧
      ∀ after, (∀ c, after.head? = some c → c.isDigit = false ∧ c ≠ '.') →
        fractionPart (fraction ++ after) = some (f, after) := by
  rw [fractionPart.eq_def] at h
  split at h
  · next cs =>
    rcases hspan : spanDigits cs with ⟨ds, r⟩
    obtain ⟨rfl, hds⟩ := spanDigits_eq hspan
    simp only [hspan] at h
    split at h
    · cases h
    · next hempty =>
      cases h
      have hdigits : Digits ds := ⟨by simpa using hempty, hds⟩
      refine ⟨'.' :: ds, rfl, .some hdigits, fun after hafter => ?_⟩
      rw [List.cons_append, fractionPart, hdigits.span fun c hc => (hafter c hc).1]
      exact if_neg hempty
  · cases h
    refine ⟨[], rfl, .none, fun after hafter => ?_⟩
    rw [List.nil_append, fractionPart]
    rintro cs rfl
    exact (hafter '.' rfl).2 rfl

/-- An exponent that is read is one of the grammar, and would be read alone. -/
theorem exists_exponent {e : Option (Bool × List Char)} (h : exponentPart cs = some (e, rest)) :
    ∃ exponent, cs = exponent ++ rest ∧ Exponent exponent ∧
      exponentPart exponent = some (e, []) := by
  have hdigits {c : Char} (sign : List Char) {r : List Char} (hc : c = 'e' ∨ c = 'E')
      (hsign : sign = [] ∨ sign = ['+'] ∨ sign = ['-'])
      (hread : (if (spanDigits r).1.isEmpty then none
        else some (some (decide (sign = ['-']), (spanDigits r).1), (spanDigits r).2)) =
          some (e, rest)) :
      ∃ exponent, c :: (sign ++ r) = exponent ++ rest ∧ Exponent exponent ∧
        exponentPart exponent = some (e, []) := by
    split at hread
    · cases hread
    · next hempty =>
      cases hread
      obtain ⟨hr, hds⟩ := spanDigits_eq (Prod.eta (spanDigits r)).symm
      have hdigits : Digits (spanDigits r).1 := ⟨by simpa using hempty, hds⟩
      refine ⟨c :: (sign ++ (spanDigits r).1), by simpa using hr, .some hc hsign hdigits, ?_⟩
      simpa using @exponentPart_some [] _ _ _ hc hsign hdigits (by simp)
  rw [exponentPart.eq_def] at h
  split at h
  · split at h
    · next hc =>
      rw [Bool.or_eq_true, decide_eq_true_eq, decide_eq_true_eq] at hc
      dsimp only at h
      split at h
      · exact hdigits ['+'] hc (.inr (.inl rfl)) h
      · exact hdigits ['-'] hc (.inr (.inr rfl)) h
      · exact hdigits [] hc (.inl rfl) h
    · cases h
      exact ⟨[], rfl, .none, rfl⟩
  · cases h
    exact ⟨[], rfl, .none, rfl⟩

/-- A number that is read consists of a whole part, a fraction and an exponent, and would be read
alone. -/
theorem exists_unsigned {negative : Bool} {v : Option Number}
    (h : unsignedNumber negative cs = some (v, rest)) :
    ∃ whole fraction exponent, cs = whole ++ (fraction ++ (exponent ++ rest)) ∧ Digits whole ∧
      (whole = ['0'] ∨ whole.head? ≠ some '0') ∧ Fraction fraction ∧ Exponent exponent ∧
      unsignedNumber negative (whole ++ (fraction ++ exponent)) = some (v, []) := by
  simp only [unsignedNumber, Option.bind_eq_bind, Option.bind_eq_some_iff] at h
  obtain ⟨⟨whole, cs₁⟩, hwhole, ⟨f, cs₂⟩, hf, ⟨e, cs₃⟩, he, hv⟩ := h
  obtain ⟨rfl, hdigits, hzero⟩ := exists_whole hwhole
  obtain ⟨fraction, rfl, hfraction, hreadf⟩ := exists_fraction hf
  obtain ⟨exponent, rfl, hexponent, hreade⟩ := exists_exponent he
  have hrest : rest = cs₃ := by
    cases f <;> cases e <;> cases hv <;> rfl
  subst hrest
  refine ⟨whole, fraction, exponent, rfl, hdigits, hzero, hfraction, hexponent, ?_⟩
  have hhead := head_exponent hexponent stops_nil
  have hhead' := head_fraction hfraction hexponent stops_nil
  rw [List.append_nil] at hhead hhead'
  rw [unsignedNumber, wholePart_append hdigits hzero hhead']
  dsimp only [Option.bind_eq_bind, Option.bind_some]
  rw [hreadf exponent hhead]
  dsimp only [Option.bind_some]
  rw [hreade]
  cases f <;> cases e <;> cases hv <;> rfl

/-- **What is read as a number is one**, with the value that is read. -/
theorem exists_isNumber {v : Option Number} (h : numberToken cs = some (v, rest)) :
    ∃ xs, cs = xs ++ rest ∧ IsNumber xs ∧ numberValue xs = v := by
  rw [numberToken.eq_def] at h
  split at h
  · obtain ⟨whole, fraction, exponent, rfl, hwhole, hzero, hf, he, hread⟩ := exists_unsigned h
    refine ⟨'-' :: (whole ++ (fraction ++ exponent)), by simp,
      @IsNumber.mk ['-'] _ _ _ (.inr rfl) hwhole hzero hf he, ?_⟩
    rw [numberValue, numberToken, hread]
    rfl
  · obtain ⟨whole, fraction, exponent, rfl, hwhole, hzero, hf, he, hread⟩ := exists_unsigned h
    refine ⟨whole ++ (fraction ++ exponent), by simp,
      @IsNumber.mk [] _ _ _ (.inl rfl) hwhole hzero hf he, ?_⟩
    obtain ⟨d, ds, rfl, hd⟩ := hwhole.exists_cons
    rw [numberValue, numberToken, hread]
    · rfl
    · rintro _ heq
      exact ne_of_isDigit hd (d := '-') rfl (List.cons.inj heq).1

/-! ### Literals -/

/-- What is read as a number to the base sixteen are hexadecimal digits. -/
theorem all_isHexDigit_of_numberIn? {n : Nat} (h : Text.numberIn? 16 cs = some n) :
    cs.all Text.isHexDigit = true := by
  suffices hfold : ∀ (cs : List Char) (m : Nat),
      cs.foldlM (fun n c => (Text.hexValue? c).bind fun d =>
        if d < 16 then some (n * 16 + d) else none) m = some n →
      cs.all Text.isHexDigit = true from hfold cs 0 h
  intro cs
  induction cs with
  | nil => exact fun _ _ => rfl
  | cons c cs ih =>
      intro m hm
      rw [List.foldlM_cons, Option.bind_eq_bind, Option.bind_eq_some_iff] at hm
      obtain ⟨m', hc, hcs⟩ := hm
      obtain ⟨d, hd, -⟩ := Option.bind_eq_some_iff.1 hc
      rw [List.all_cons, Text.isHexDigit, hd, ih m' hcs]
      rfl

/-- Only some letters stand for a character after a backslash. -/
theorem mem_of_simpleEscape? {c m : Char} (h : simpleEscape? c = some m) :
    c ∈ "\"\\/bfnrt".toList := by
  simp only [simpleEscape?] at h
  split_ifs at h
  all_goals
    simp_all
    try tauto

/-- **What is read as a literal is one**, up to its closing quote. -/
theorem exists_literalBody {acc : Option (List Char)} {half : Option Nat} {v : Option String}
    (h : stringRest acc half cs = some (v, rest)) :
    ∃ body, cs = body ++ '"' :: rest ∧ LiteralBody body := by
  have hcode {x y z t : Char} {n : Nat} {cs : List Char} (hn : hex4? x y z t = some n)
      (ih : ∃ body, cs = body ++ '"' :: rest ∧ LiteralBody body) :
      ∃ body, '\\' :: 'u' :: x :: y :: z :: t :: cs = body ++ '"' :: rest ∧ LiteralBody body := by
    obtain ⟨body, rfl, hbody⟩ := ih
    exact ⟨_, rfl, .code (all_isHexDigit_of_numberIn? hn) hbody⟩
  fun_induction stringRest acc half cs
  case case3 hn _ _ ih => exact hcode hn (ih h)
  case case4 hn _ _ ih => exact hcode hn (ih h)
  case case5 hn _ ih => exact hcode hn (ih h)
  case case6 hn _ _ ih => exact hcode hn (ih h)
  case case7 hn _ _ ih => exact hcode hn (ih h)
  case case9 hc ih =>
    obtain ⟨body, rfl, hbody⟩ := ih h
    exact ⟨_, rfl, .escape (mem_of_simpleEscape? hc) hbody⟩
  case case10 =>
    cases h
    exact ⟨[], rfl, .nil⟩
  case case12 hquote hplain ih =>
    obtain ⟨body, rfl, hbody⟩ := ih h
    simp only [Bool.or_eq_true, decide_eq_true_eq, not_or, not_lt] at hplain
    exact ⟨_, rfl, .plain hquote hplain.1 hplain.2 hbody⟩
  all_goals cases h

/-! ### Tokens -/

/-- The text of a token that is always written in the same way. -/
def Token.text? : Token → Option (List Char)
  | .openBrace => some ['\x7b']
  | .closeBrace => some ['\x7d']
  | .openBracket => some ['[']
  | .closeBracket => some [']']
  | .colon => some [':']
  | .comma => some [',']
  | .null => some "null".toList
  | .bool true => some "true".toList
  | .bool false => some "false".toList
  | .number _ => none
  | .string _ => none
  | .junk => none

/-- The text **spells the token**. -/
inductive SpellsToken : Token → List Char → Prop where
  | fixed {t : Token} {cs : List Char} (h : t.text? = some cs) : SpellsToken t cs
  | number {cs : List Char} (h : IsNumber cs) : SpellsToken (.number (numberValue cs)) cs
  | string {body : List Char} (h : LiteralBody body) :
      SpellsToken (.string (literalValue body)) ('"' :: (body ++ ['"']))

/-- **What is read as a token spells it.** -/
theorem exists_token {t : Token} (h : nextToken cs = some (t, rest)) :
    ∃ xs, cs = xs ++ rest ∧ SpellsToken t xs := by
  rw [nextToken.eq_def] at h
  split at h
  case h_10 cs =>
    obtain ⟨⟨v, cs⟩, hread, heq⟩ := Option.map_eq_some_iff.1 h
    cases heq
    obtain ⟨body, rfl, hbody⟩ := exists_literalBody hread
    have hvalue : v = literalValue body := by
      have hnext := nextToken_literal hbody rest
      rw [nextToken, hread] at hnext
      simpa using hnext
    subst hvalue
    exact ⟨_, by simp, .string hbody⟩
  case h_11 =>
    obtain ⟨⟨v, cs⟩, hread, heq⟩ := Option.map_eq_some_iff.1 h
    cases heq
    obtain ⟨xs, rfl, hnumber, rfl⟩ := exists_isNumber hread
    exact ⟨xs, rfl, .number hnumber⟩
  all_goals
    cases h
    exact ⟨_, rfl, .fixed rfl⟩

/-- The text **begins**, behind blanks, with a piece of the given kind, and the tokens are those of
what is behind the piece. -/
inductive Begins (P : List Char → Prop) (r : List Token) : List Char → Prop where
  | mk {w xs rest : List Char} (hw : Blanks w) (h : P xs) (hrest : tokens rest = r) :
      Begins P r (w ++ (xs ++ rest))

/-- A beginning of one kind is one of another kind if every text of the one is. -/
theorem Begins.imp {P Q : List Char → Prop} {r : List Token} (h : Begins P r cs)
    (himp : ∀ xs, P xs → Q xs) : Begins Q r cs := by
  cases h with
  | mk hw h hrest => exact .mk hw (himp _ h) hrest

/-- The first token of a text, and the tokens of what is behind it. -/
theorem begins_of_tokens_eq {t : Token} {r : List Token} (h : tokens cs = t :: r)
    (ht : t ≠ .junk) : Begins (SpellsToken t) r cs := by
  have hcut : cs.takeWhile isSpace ++ cs.dropWhile isSpace = cs := List.takeWhile_append_dropWhile
  have hblanks : Blanks (cs.takeWhile isSpace) := List.all_takeWhile
  have hlength : (cs.dropWhile isSpace).length ≤ cs.length := (List.dropWhile_suffix _).length_le
  rw [tokens, tokensFrom] at h
  split at h
  · cases h
  · split at h
    · cases h
      exact absurd rfl ht
    · next hnext =>
      have hrest := nextToken_length hnext
      obtain ⟨xs, hxs, ht⟩ := exists_token hnext
      rw [lexes_tokens _ cs.length (by omega)] at h
      cases h
      rw [← hcut, hxs]
      exact .mk hblanks ht rfl

/-- The sign at the start of a text. -/
theorem exists_sign {t : Token} {c : Char} {r : List Token} (h : tokens cs = t :: r)
    (ht : t.text? = some [c]) : ∃ w rest, cs = w ++ c :: rest ∧ Blanks w ∧ tokens rest = r := by
  have hjunk : t ≠ .junk := by
    rintro rfl
    cases ht
  cases begins_of_tokens_eq h hjunk with
  | @mk w xs rest hw hspells hrest =>
      cases hspells with
      | fixed hxs =>
          obtain rfl : xs = [c] := Option.some.inj (hxs.symm.trans ht)
          exact ⟨w, rest, rfl, hw, hrest⟩
      | number => cases ht
      | string => cases ht

/-- The key of a member at the start of a text, with its colon. -/
theorem exists_key {k : Option String} {r : List Token}
    (h : tokens cs = .string k :: .colon :: r) :
    ∃ key rest, cs = key ++ ':' :: rest ∧ SpellsKey k key ∧ tokens rest = r := by
  cases begins_of_tokens_eq h (by simp) with
  | @mk w xs rest hw hspells hrest =>
      cases hspells with
      | fixed hxs => cases hxs
      | @string body hbody =>
          obtain ⟨u, rest, rfl, hu, hrest⟩ := exists_sign hrest rfl
          exact ⟨_, rest, by simp, .mk hw hbody hu, hrest⟩

/-! ### Values -/

/-- A value at the start of a text, with the blanks around it, up to a sign. -/
theorem Begins.exists_text {d : Document} {t : Token} {c : Char} {r : List Token}
    (h : Begins (Spells d) (t :: r) cs) (ht : t.text? = some [c]) :
    ∃ xs rest, cs = xs ++ c :: rest ∧ SpellsText d xs ∧ tokens rest = r := by
  cases h with
  | mk hw hd hrest =>
      obtain ⟨u, rest, rfl, hu, hrest⟩ := exists_sign hrest ht
      exact ⟨_, rest, by simp, .mk hw hd hu, hrest⟩

/-- The value that is a single token. -/
def Token.document? : Token → Option Document
  | .null => some .null
  | .bool b => some (.bool b)
  | .number v => some (.number v)
  | .string v => some (.string v)
  | _ => none

/-- A token that is a document by itself is spelled as the document. -/
theorem SpellsToken.spells {t : Token} {d : Document} {xs : List Char} (h : SpellsToken t xs)
    (ht : t.document? = some d) : Spells d xs := by
  cases h with
  | fixed hxs =>
      cases t with
      | null =>
          cases hxs
          cases ht
          exact .null
      | bool b =>
          cases ht
          cases b <;> cases hxs
          · exact .bool false
          · exact .bool true
      | number => cases hxs
      | string => cases hxs
      | _ => cases ht
  | number hnumber =>
      cases ht
      exact .number hnumber
  | string hbody =>
      cases ht
      exact .string hbody

/-- Tokens that begin with a document by itself are those of a text that begins with its
spelling. -/
theorem begins_of_document? {t : Token} {d : Document} {r : List Token} (h : tokens cs = t :: r)
    (ht : t.document? = some d) : Begins (Spells d) r cs := by
  have hjunk : t ≠ .junk := by
    rintro rfl
    cases ht
  exact (begins_of_tokens_eq h hjunk).imp fun _ hxs => hxs.spells ht

namespace Document

mutual

/-- **What is read as a value is one**, and the document is the one that it spells. -/
theorem exists_value {cs : List Char} {fuel depth : Nat} {d : Document} {r : List Token}
    (h : value fuel depth (Json.tokens cs) = (d, some r)) :
    ∃ d₀ : Document, Begins (Spells d₀) r cs ∧ d = d₀.limited depth := by
  match fuel with
  | 0 => cases h
  | fuel + 1 =>
      generalize hts : Json.tokens cs = ts at h
      rw [value.eq_def] at h
      dsimp only at h
      split at h
      · cases h
        exact ⟨_, begins_of_document? hts rfl, rfl⟩
      · cases h
        exact ⟨_, begins_of_document? hts rfl, rfl⟩
      · cases h
        exact ⟨_, begins_of_document? hts rfl, rfl⟩
      · cases h
        exact ⟨_, begins_of_document? hts rfl, rfl⟩
      · cases h
        obtain ⟨w, rest, rfl, hw, hrest⟩ := exists_sign hts rfl
        obtain ⟨u, rest, rfl, hu, hrest⟩ := exists_sign hrest rfl
        exact ⟨.array [] true, by simpa using Begins.mk hw (Spells.emptyArray hu) hrest, rfl⟩
      · obtain ⟨w, rest, rfl, hw, rfl⟩ := exists_sign hts rfl
        rcases hitems : arrayItems fuel (depth + 1) (Json.tokens rest) with ⟨ds, r'⟩
        rw [hitems] at h
        cases h
        obtain ⟨ds₀, xs, rest, rfl, hxs, hrest, rfl⟩ := exists_items hitems
        exact ⟨.array ds₀ true, by simpa using Begins.mk hw (Spells.array hxs) hrest, rfl⟩
      · cases h
        obtain ⟨w, rest, rfl, hw, hrest⟩ := exists_sign hts rfl
        obtain ⟨u, rest, rfl, hu, hrest⟩ := exists_sign hrest rfl
        exact ⟨.object [] true, by simpa using Begins.mk hw (Spells.emptyObject hu) hrest, rfl⟩
      · obtain ⟨w, rest, rfl, hw, rfl⟩ := exists_sign hts rfl
        rcases hmembers : objectMembers fuel (depth + 1) (Json.tokens rest) with ⟨ms, r'⟩
        rw [hmembers] at h
        cases h
        obtain ⟨ms₀, xs, rest, rfl, hxs, hrest, rfl⟩ := exists_members hmembers
        exact ⟨.object ms₀ true, by simpa using Begins.mk hw (Spells.object hxs) hrest, rfl⟩
      · cases h

/-- Items that are read up to a bracket are spelled up to it. -/
theorem exists_items {cs : List Char} {fuel depth : Nat} {ds : List Document} {r : List Token}
    (h : arrayItems fuel depth (Json.tokens cs) = (ds, some r)) :
    ∃ ds₀ xs rest, cs = xs ++ ']' :: rest ∧ SpellsItems ds₀ xs ∧ Json.tokens rest = r ∧
      ds = limitedItems depth ds₀ := by
  match fuel with
  | 0 => cases h
  | fuel + 1 =>
      rw [arrayItems] at h
      split at h
      · next d r hvalue =>
        obtain ⟨d₀, hbegins, rfl⟩ := exists_value hvalue
        obtain ⟨xs, rest, rfl, hxs, rfl⟩ := hbegins.exists_text rfl
        rcases hitems : arrayItems fuel depth (Json.tokens rest) with ⟨ds, r'⟩
        rw [hitems] at h
        cases h
        obtain ⟨ds₀, ys, rest, rfl, hys, hrest, rfl⟩ := exists_items hitems
        exact ⟨d₀ :: ds₀, xs ++ ',' :: ys, rest, by simp, .cons hxs hys, hrest, rfl⟩
      · next d r hvalue =>
        cases h
        obtain ⟨d₀, hbegins, rfl⟩ := exists_value hvalue
        obtain ⟨xs, rest, rfl, hxs, hrest⟩ := hbegins.exists_text rfl
        exact ⟨[d₀], xs, rest, rfl, .one hxs, hrest, rfl⟩
      · cases h

/-- Members that are read up to a brace are spelled up to it. -/
theorem exists_members {cs : List Char} {fuel depth : Nat}
    {ms : List (Option String × Document)} {r : List Token}
    (h : objectMembers fuel depth (Json.tokens cs) = (ms, some r)) :
    ∃ ms₀ xs rest, cs = xs ++ '\x7d' :: rest ∧ SpellsMembers ms₀ xs ∧ Json.tokens rest = r ∧
      ms = limitedMembers depth ms₀ := by
  match fuel with
  | 0 => cases h
  | fuel + 1 =>
      generalize hts : Json.tokens cs = ts at h
      rw [objectMembers.eq_def] at h
      dsimp only at h
      split at h
      · obtain ⟨key, rest, rfl, hkey, rfl⟩ := exists_key hts
        split at h
        · next d r hvalue =>
          obtain ⟨d₀, hbegins, rfl⟩ := exists_value hvalue
          obtain ⟨xs, rest, rfl, hxs, rfl⟩ := hbegins.exists_text rfl
          rcases hmembers : objectMembers fuel depth (Json.tokens rest) with ⟨ms, r'⟩
          rw [hmembers] at h
          cases h
          obtain ⟨ms₀, ys, rest, rfl, hys, hrest, rfl⟩ := exists_members hmembers
          exact ⟨(_, d₀) :: ms₀, key ++ ':' :: (xs ++ ',' :: ys), rest, by simp,
            .cons hkey hxs hys, hrest, rfl⟩
        · next d r hvalue =>
          cases h
          obtain ⟨d₀, hbegins, rfl⟩ := exists_value hvalue
          obtain ⟨xs, rest, rfl, hxs, hrest⟩ := hbegins.exists_text rfl
          exact ⟨[(_, d₀)], key ++ ':' :: xs, rest, by simp, .one hkey hxs, hrest, rfl⟩
        · cases h
      · cases h
      · cases h

end

/-- **Exactly the JSON texts are accepted**, as the documents that they spell. -/
theorem ofText_eq_true_iff {d : Document} :
    ofText cs = (d, true) ↔ ∃ d₀ : Document, SpellsText d₀ cs ∧ d = d₀.limited 0 := by
  constructor
  · intro h
    rw [ofText] at h
    split at h
    · next d hvalue =>
      cases h
      obtain ⟨d₀, hbegins, rfl⟩ := exists_value hvalue
      cases hbegins with
      | mk hw hd hrest => exact ⟨d₀, .mk hw hd (tokens_eq_nil_iff.1 hrest), rfl⟩
    · cases h
  · rintro ⟨d₀, hd, rfl⟩
    exact ofText_of_spellsText hd

end Document

end Scenarist.Json
