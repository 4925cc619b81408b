import Scenarist.Proofs.Json.Grammar
import Scenarist.Proofs.Spec.Target

/-!
# The Tokens of JSON Texts

The scanner of JSON against the grammar: a text that the grammar allows is cut into the tokens of
the document that it spells (`Document.tokens`). A number is read up to its end if what follows
does not go on with it, and in a JSON text it never does, since only blanks, commas and closing
brackets follow a value. A literal is read up to its closing quote, whatever is behind it.

A text **lexes** into tokens (`Lexes`) whatever the fuel of the scanner, and so texts are read from
their end: what a token is put before is cut already.

## Main results

* `numberToken_append`: a number is read up to its end.
* `nextToken_literal`: a literal is read up to its closing quote.
* `tokens_of_spellsText`: **a JSON text is cut into the tokens of the document that it spells**.
-/

namespace Scenarist.Json

/-! ### Cutting into tokens -/

/-- The text is cut into the tokens, whatever the fuel. -/
def Lexes (cs : List Char) (ts : List Token) : Prop :=
  ∀ fuel, cs.length < fuel → tokensFrom fuel cs = ts

/-- The reader finds the tokens that are described. -/
theorem Lexes.tokens_eq {cs : List Char} {ts : List Token} (h : Lexes cs ts) : tokens cs = ts :=
  h _ (Nat.lt_succ_self _)

/-- There are no tokens in the empty text. -/
theorem lexes_nil : Lexes [] [] := by
  intro fuel hfuel
  cases fuel with
  | zero => cases hfuel
  | succ fuel => rfl

/-- Blanks are passed over. -/
theorem Lexes.blanks {w cs : List Char} {ts : List Token} (hw : Blanks w) (h : Lexes cs ts) :
    Lexes (w ++ cs) ts := by
  intro fuel hfuel
  rw [List.length_append] at hfuel
  rw [← h fuel (by omega)]
  cases fuel with
  | zero => cases hfuel
  | succ fuel => rw [tokensFrom, tokensFrom, List.dropWhile_append_of_pos (List.all_eq_true.1 hw)]

/-- A token is read, and the text goes on after it. -/
theorem Lexes.token {rest : List Char} {t : Token} {ts : List Token} (h : Lexes rest ts) (c : Char)
    (cs : List Char) (hspace : isSpace c = false)
    (htoken : nextToken (c :: (cs ++ rest)) = some (t, rest)) :
    Lexes (c :: (cs ++ rest)) (t :: ts) := by
  intro fuel hfuel
  rw [List.length_cons, List.length_append] at hfuel
  cases fuel with
  | zero => cases hfuel
  | succ fuel =>
      have hc : ¬ isSpace c = true := by simp [hspace]
      rw [tokensFrom, List.dropWhile_cons_of_neg hc]
      dsimp only
      rw [htoken]
      dsimp only
      rw [h fuel (by omega)]

/-- A sign is read. -/
theorem Lexes.sign {rest : List Char} {t : Token} {ts : List Token} (h : Lexes rest ts) (c : Char)
    (hspace : isSpace c = false) (hnext : nextToken (c :: rest) = some (t, rest)) :
    Lexes (c :: rest) (t :: ts) :=
  h.token c [] hspace hnext

/-! ### Numbers -/

/-- Nothing at the start of the text goes on with a number. -/
def Stops (cs : List Char) : Prop :=
  ∀ c, cs.head? = some c → c.isDigit = false ∧ c ≠ '.' ∧ c ≠ 'e' ∧ c ≠ 'E'

/-- A number stops at the end of the text. -/
theorem stops_nil : Stops [] := by
  intro c hc
  cases hc

/-- A number stops before anything that does not continue it. -/
theorem stops_cons {c : Char} {cs : List Char} (hdigit : c.isDigit = false)
    (hc : c ≠ '.' ∧ c ≠ 'e' ∧ c ≠ 'E') : Stops (c :: cs) := by
  rintro _ ⟨⟩
  exact ⟨hdigit, hc⟩

/-- Blanks do not go on with a number. -/
theorem Stops.blanks {w cs : List Char} (hw : Blanks w) (h : Stops cs) : Stops (w ++ cs) := by
  cases w with
  | nil => exact h
  | cons c w =>
      rintro _ ⟨⟩
      have hc : isSpace c = true := List.all_eq_true.1 hw c (by simp)
      simp only [isSpace, Bool.or_eq_true, beq_iff_eq] at hc
      rcases hc with ((rfl | rfl) | rfl) | rfl <;> decide

variable {rest : List Char}

/-- A digit is none of the signs that the scanner looks for. -/
theorem ne_of_isDigit {c d : Char} (hc : c.isDigit = true) (hd : d.isDigit = false) : c ≠ d := by
  rintro rfl
  rw [hc] at hd
  cases hd

/-- There is a first digit. -/
theorem Digits.exists_cons {ds : List Char} (h : Digits ds) :
    ∃ d rest, ds = d :: rest ∧ d.isDigit = true := by
  obtain ⟨hne, hds⟩ := h
  cases ds with
  | nil => exact absurd rfl hne
  | cons d rest => exact ⟨d, rest, rfl, List.all_eq_true.1 hds d (by simp)⟩

/-- Digits are read up to where the text stops. -/
theorem Digits.span {ds : List Char} (h : Digits ds)
    (hrest : ∀ c, rest.head? = some c → c.isDigit = false) :
    spanDigits (ds ++ rest) = (ds, rest) :=
  Spec.span_append_of_stop h.2 hrest

/-- There is a digit. -/
theorem Digits.not_isEmpty {ds : List Char} (h : Digits ds) : ¬ ds.isEmpty = true := by
  simpa using h.1

/-- The sign and the digits of an exponent are read up to where the digits stop. -/
theorem exponentPart_some {e : Char} {sign ds : List Char} (he : e = 'e' ∨ e = 'E')
    (hsign : sign = [] ∨ sign = ['+'] ∨ sign = ['-']) (h : Digits ds)
    (hrest : ∀ c, rest.head? = some c → c.isDigit = false) :
    exponentPart (e :: (sign ++ ds) ++ rest) = some (some (decide (sign = ['-']), ds), rest) := by
  have hspan := h.span hrest
  have hempty := h.not_isEmpty
  obtain ⟨d, ds, rfl, hd⟩ := h.exists_cons
  rcases hsign with rfl | rfl | rfl
  · have hplus := ne_of_isDigit hd (d := '+') rfl
    have hminus := ne_of_isDigit hd (d := '-') rfl
    rw [List.cons_append] at hspan
    simp [exponentPart, he, hplus, hminus, hspan]
  · simp only [exponentPart, List.cons_append, List.nil_append] at hspan ⊢
    simp [he, hspan]
  · simp only [exponentPart, List.cons_append, List.nil_append] at hspan ⊢
    simp [he, hspan]

/-- An exponent is read before anything that does not continue a number. -/
theorem exponentPart_append {exponent : List Char} (h : Exponent exponent) :
    ∃ e, ∀ rest, Stops rest → exponentPart (exponent ++ rest) = some (e, rest) := by
  cases h with
  | none =>
      refine ⟨none, fun rest hrest => ?_⟩
      cases rest with
      | nil => rfl
      | cons c rest =>
          obtain ⟨-, -, he, hE⟩ := hrest c rfl
          simp [exponentPart, he, hE]
  | @some e sign ds he hsign h =>
      exact ⟨_, fun rest hrest => exponentPart_some he hsign h fun c hc => (hrest c hc).1⟩

/-- Neither a fraction nor what may follow a number begins with a digit. -/
theorem head_fraction {fraction exponent : List Char} (hf : Fraction fraction)
    (he : Exponent exponent) (hrest : Stops rest) :
    ∀ c, (fraction ++ (exponent ++ rest)).head? = some c → c.isDigit = false := by
  intro c hc
  cases hf with
  | some _ =>
      cases hc
      rfl
  | none =>
      cases he with
      | some he _ _ =>
          cases hc
          rcases he with rfl | rfl <;> rfl
      | none => exact (hrest c hc).1

/-- Neither an exponent nor the end of a number continues a fraction. -/
theorem head_exponent {exponent : List Char} (he : Exponent exponent) (hrest : Stops rest) :
    ∀ c, (exponent ++ rest).head? = some c → c.isDigit = false ∧ c ≠ '.' := by
  intro c hc
  cases he with
  | some he _ _ =>
      cases hc
      rcases he with rfl | rfl <;> decide
  | none => exact ⟨(hrest c hc).1, (hrest c hc).2.1⟩

/-- A fraction is read before anything that does not continue it. -/
theorem fractionPart_append {fraction : List Char} (h : Fraction fraction) :
    ∃ f, ∀ rest, (∀ c, rest.head? = some c → c.isDigit = false ∧ c ≠ '.') →
      fractionPart (fraction ++ rest) = some (f, rest) := by
  cases h with
  | none =>
      refine ⟨none, fun rest hrest => ?_⟩
      rw [List.nil_append, fractionPart]
      rintro cs rfl
      exact (hrest '.' rfl).2 rfl
  | @some ds h =>
      refine ⟨some ds, fun rest hrest => ?_⟩
      have hspan := h.span fun c hc => (hrest c hc).1
      rw [List.cons_append, fractionPart, hspan]
      exact if_neg h.not_isEmpty

/-- A whole part is read before anything but a digit. -/
theorem wholePart_append {whole : List Char} (h : Digits whole)
    (hzero : whole = ['0'] ∨ whole.head? ≠ some '0')
    (hrest : ∀ c, rest.head? = some c → c.isDigit = false) :
    wholePart (whole ++ rest) = some (whole, rest) := by
  rw [wholePart, h.span hrest]
  dsimp only
  split
  · exact absurd rfl h.1
  · simp at hzero
  · rfl

/-- What a number stands for by its parts. -/
def partsValue (negative : Bool) (whole : List Char) :
    Option (List Char) → Option (Bool × List Char) → Option Number
  | none, none => wholeValue negative whole
  | fraction, exponent => floatValue negative whole (fraction.getD []) exponent

/-- A number without its sign is read before anything that does not continue it. -/
theorem unsignedNumber_append {whole fraction exponent : List Char} (negative : Bool)
    (hwhole : Digits whole) (hzero : whole = ['0'] ∨ whole.head? ≠ some '0')
    (hf : Fraction fraction) (he : Exponent exponent) :
    ∃ v, ∀ rest, Stops rest →
      unsignedNumber negative (whole ++ (fraction ++ (exponent ++ rest))) = some (v, rest) := by
  obtain ⟨f, hfraction⟩ := fractionPart_append hf
  obtain ⟨e, hexponent⟩ := exponentPart_append he
  refine ⟨partsValue negative whole f e, fun rest hrest => ?_⟩
  rw [unsignedNumber, wholePart_append hwhole hzero (head_fraction hf he hrest)]
  dsimp only [Option.bind_eq_bind, Option.bind_some]
  rw [hfraction _ (head_exponent he hrest)]
  dsimp only [Option.bind_some]
  rw [hexponent rest hrest]
  dsimp only [Option.bind_some]
  cases f <;> cases e <;> rfl

/-- **A number is read up to its end.** -/
theorem numberToken_append {cs : List Char} (h : IsNumber cs) (hrest : Stops rest) :
    numberToken (cs ++ rest) = some (numberValue cs, rest) := by
  obtain ⟨v, hv⟩ : ∃ v, ∀ rest, Stops rest → numberToken (cs ++ rest) = some (v, rest) := by
    cases h with
    | @mk sign whole fraction exponent hsign hwhole hzero hf he =>
        obtain ⟨v, hv⟩ := unsignedNumber_append (sign = ['-']) hwhole hzero hf he
        refine ⟨v, fun rest hrest => ?_⟩
        have h := hv rest hrest
        rcases hsign with rfl | rfl
        · obtain ⟨d, ds, rfl, hd⟩ := hwhole.exists_cons
          have hminus := ne_of_isDigit hd (d := '-') rfl
          simpa [numberToken, hminus] using h
        · simpa [numberToken] using h
  have hvalue : numberValue cs = v := by
    rw [numberValue, ← List.append_nil cs, hv [] stops_nil]
    rfl
  rw [hvalue, hv rest hrest]

/-- A number begins with a digit or with a minus. -/
theorem IsNumber.exists_cons {cs : List Char} (h : IsNumber cs) :
    ∃ c rest, cs = c :: rest ∧ (c.isDigit = true ∨ c = '-') := by
  cases h with
  | mk hsign hwhole _ _ _ =>
      obtain ⟨d, ds, rfl, hd⟩ := hwhole.exists_cons
      rcases hsign with rfl | rfl
      · exact ⟨d, _, rfl, .inl hd⟩
      · exact ⟨'-', _, rfl, .inr rfl⟩

/-- A number begins with none of the characters that are looked at before numbers are. -/
theorem ne_of_begins {c d : Char} (hc : c.isDigit = true ∨ c = '-') (hd : d.isDigit = false)
    (hminus : d ≠ '-') : c ≠ d := by
  rcases hc with hc | rfl
  · exact ne_of_isDigit hc hd
  · exact hminus.symm

/-- **A number is one token**, with its value. -/
theorem nextToken_number {cs : List Char} (h : IsNumber cs) (hrest : Stops rest) :
    nextToken (cs ++ rest) = some (.number (numberValue cs), rest) := by
  have hread := numberToken_append h hrest
  obtain ⟨c, cs, rfl, hc⟩ := h.exists_cons
  rw [List.cons_append] at hread ⊢
  rw [nextToken, hread]
  · rfl
  all_goals
    rintro _ heq
    exact ne_of_begins hc rfl (by decide) (List.cons.inj heq).1

/-! ### Literals -/

/-- A hexadecimal digit is worth less than sixteen. -/
theorem hexValue?_lt {c : Char} {n : Nat} (h : Text.hexValue? c = some n) : n < 16 := by
  simp only [Text.hexValue?, Bool.and_eq_true, decide_eq_true_eq] at h
  split at h
  · cases h
    omega
  · split at h
    · cases h
      omega
    · split at h
      · cases h
        omega
      · cases h

/-- Digits in base sixteen always make a number. -/
theorem exists_numberIn?_sixteen {cs : List Char} (h : cs.all Text.isHexDigit = true) :
    ∃ n, Text.numberIn? 16 cs = some n := by
  suffices hfold : ∀ m, ∃ n, cs.foldlM (fun n c => (Text.hexValue? c).bind fun d =>
      if d < 16 then some (n * 16 + d) else none) m = some n from hfold 0
  induction cs with
  | nil => exact fun m => ⟨m, rfl⟩
  | cons c cs ih =>
      intro m
      rw [List.all_cons, Bool.and_eq_true] at h
      obtain ⟨d, hd⟩ := Option.isSome_iff_exists.1 h.1
      obtain ⟨n, hn⟩ := ih h.2 (m * 16 + d)
      refine ⟨n, ?_⟩
      rw [List.foldlM_cons, hd]
      simpa [hexValue?_lt hd] using hn

/-- These letters stand for a character after a backslash, and none of them for its number. -/
theorem exists_simpleEscape? {c : Char} (hc : c ∈ "\"\\/bfnrt".toList) :
    c ≠ 'u' ∧ ∃ m, simpleEscape? c = some m := by
  simp only [String.reduceToList, List.mem_cons, List.not_mem_nil, or_false] at hc
  rcases hc with rfl | rfl | rfl | rfl | rfl | rfl | rfl | rfl
  all_goals exact ⟨by decide, _, rfl⟩

/-- The number of a unit is read where no half of a pair waits. -/
theorem stringRest_code {x y z t : Char} {n : Nat} (hn : Text.numberIn? 16 [x, y, z, t] = some n)
    (acc : Option (List Char)) (cs : List Char) :
    stringRest acc none ('\\' :: 'u' :: x :: y :: z :: t :: cs) =
      if isHighHalf n then stringRest acc (some n) cs
      else if isLowHalf n then stringRest none none cs
      else stringRest (push acc (Char.ofNat n)) none cs := by
  simp only [stringRest, hex4?, hn]

/-- The number of a unit is read behind the first half of a pair. -/
theorem stringRest_code_of_half {x y z t : Char} {n : Nat}
    (hn : Text.numberIn? 16 [x, y, z, t] = some n) (acc : Option (List Char)) (first : Nat)
    (cs : List Char) :
    stringRest acc (some first) ('\\' :: 'u' :: x :: y :: z :: t :: cs) =
      if isLowHalf n then
        stringRest (push acc
          (Char.ofNat (0x10000 + (first - 0xD800) * 1024 + (n - 0xDC00)))) none cs
      else stringRest none none cs := by
  simp only [stringRest, hex4?, hn]

/-- The inside of a literal is read up to the closing quote, whatever has been read before. -/
theorem stringRest_append {body : List Char} (h : LiteralBody body) (acc : Option (List Char))
    (half : Option Nat) :
    ∃ v, ∀ rest, stringRest acc half (body ++ '"' :: rest) = some (v, rest) := by
  induction h generalizing acc half with
  | nil =>
      refine ⟨(if half.isSome then none else acc).map fun r => String.ofList r.reverse, ?_⟩
      intro rest
      rw [List.nil_append, stringRest]
      · exact if_pos rfl
      all_goals simp
  | @plain c cs hquote hslash hcontrol h ih =>
      obtain ⟨v, hv⟩ := ih (if half.isSome then none else push acc c) none
      refine ⟨v, fun rest => ?_⟩
      rw [List.cons_append, stringRest, if_neg hquote]
      · simp [hslash, hcontrol, hv]
      all_goals simp [hslash]
  | @escape c cs hc h ih =>
      obtain ⟨hu, m, hm⟩ := exists_simpleEscape? hc
      obtain ⟨v, hv⟩ := ih (if half.isSome then none else push acc m) none
      refine ⟨v, fun rest => ?_⟩
      rw [List.cons_append, List.cons_append, stringRest, hm]
      · exact hv rest
      · rintro _ _ _ _ _ rfl
        exact absurd rfl hu
  | @code x y z t cs hdigits h ih =>
      obtain ⟨n, hn⟩ := exists_numberIn?_sixteen hdigits
      simp only [List.cons_append]
      cases half with
      | some first =>
          simp only [stringRest_code_of_half hn]
          split
          · exact ih _ _
          · exact ih _ _
      | none =>
          simp only [stringRest_code hn]
          split
          · exact ih _ _
          · split
            · exact ih _ _
            · exact ih _ _

/-- **A literal is read up to its closing quote.** -/
theorem nextToken_literal {body : List Char} (h : LiteralBody body) (rest : List Char) :
    nextToken ('"' :: (body ++ '"' :: rest)) = some (.string (literalValue body), rest) := by
  obtain ⟨v, hv⟩ := stringRest_append h (some []) none
  have hvalue : literalValue body = v := by
    rw [literalValue, stringToken, hv]
    rfl
  rw [nextToken, stringToken, hv, hvalue]
  rfl

/-! ### Values -/

mutual

/-- The tokens of a document. -/
def Document.tokens : Document → List Token
  | .broken => [.junk]
  | .null => [.null]
  | .bool b => [.bool b]
  | .number v => [.number v]
  | .string v => [.string v]
  | .array items _ => .openBracket :: (itemsTokens items ++ [.closeBracket])
  | .object members _ => .openBrace :: (membersTokens members ++ [.closeBrace])
  | .deep d => d.tokens

/-- The tokens of items, with commas between them. -/
def itemsTokens : List Document → List Token
  | [] => []
  | [d] => d.tokens
  | d :: ds => d.tokens ++ .comma :: itemsTokens ds

/-- The tokens of members, with commas between them. -/
def membersTokens : List (Option String × Document) → List Token
  | [] => []
  | [(k, d)] => .string k :: .colon :: d.tokens
  | (k, d) :: ms => .string k :: .colon :: (d.tokens ++ .comma :: membersTokens ms)

end

/-- There is an item at least. -/
theorem SpellsItems.ne_nil {ds : List Document} {cs : List Char} (h : SpellsItems ds cs) :
    ds ≠ [] := by
  cases h <;> exact List.cons_ne_nil _ _

/-- There is a member at least. -/
theorem SpellsMembers.ne_nil {ms : List (Option String × Document)} {cs : List Char}
    (h : SpellsMembers ms cs) : ms ≠ [] := by
  cases h <;> exact List.cons_ne_nil _ _

/-- Between items stands a comma. -/
theorem itemsTokens_cons {d : Document} {ds : List Document} (h : ds ≠ []) :
    itemsTokens (d :: ds) = d.tokens ++ .comma :: itemsTokens ds := by
  rw [itemsTokens]
  exact h

/-- Between members stands a comma. -/
theorem membersTokens_cons {k : Option String} {d : Document}
    {ms : List (Option String × Document)} (h : ms ≠ []) :
    membersTokens ((k, d) :: ms) =
      .string k :: .colon :: (d.tokens ++ .comma :: membersTokens ms) := by
  rw [membersTokens]
  exact h

/-- The key of a member is read with its colon. -/
theorem Lexes.key {k : Option String} {key rest : List Char} {ts : List Token}
    (hkey : SpellsKey k key) (h : Lexes rest ts) :
    Lexes (key ++ ':' :: rest) (.string k :: .colon :: ts) := by
  cases hkey with
  | @mk w body u hw hbody hu =>
      have hcolon : Lexes (u ++ ':' :: rest) (.colon :: ts) := (h.sign ':' rfl rfl).blanks hu
      have hnext := nextToken_literal hbody (u ++ ':' :: rest)
      have hliteral := hcolon.token '"' (body ++ ['"']) rfl (by simpa using hnext)
      simpa using hliteral.blanks hw

mutual

/-- **The tokens of a value are those of the document that it spells.** -/
theorem Lexes.value {d : Document} {cs rest : List Char} {ts : List Token} (hd : Spells d cs)
    (hstops : Stops rest) (h : Lexes rest ts) : Lexes (cs ++ rest) (d.tokens ++ ts) := by
  match d, cs, hd with
  | _, _, .null => exact h.token 'n' "ull".toList rfl rfl
  | _, _, .bool true => exact h.token 't' "rue".toList rfl rfl
  | _, _, .bool false => exact h.token 'f' "alse".toList rfl rfl
  | _, _, .number hnumber =>
      have hnext := nextToken_number hnumber hstops
      obtain ⟨c, cs, rfl, hc⟩ := hnumber.exists_cons
      have hspace : isSpace c = false := by
        simp only [isSpace, Bool.or_eq_false_iff, beq_eq_false_iff_ne]
        refine ⟨⟨⟨?_, ?_⟩, ?_⟩, ?_⟩
        all_goals exact ne_of_begins hc rfl (by decide)
      exact h.token c cs hspace hnext
  | _, _, @Spells.string body hbody =>
      have hnext := nextToken_literal hbody rest
      have hliteral := h.token '"' (body ++ ['"']) rfl (by simpa using hnext)
      simpa [Document.tokens] using hliteral
  | _, _, .emptyArray hw =>
      have hclose := (h.sign ']' rfl rfl).blanks hw
      have hopen := hclose.sign '[' rfl rfl
      simpa [Document.tokens, itemsTokens] using hopen
  | _, _, .array hitems =>
      have hclose := h.sign ']' rfl rfl
      have hinside := Lexes.items hitems (stops_cons rfl (by decide)) hclose
      simpa [Document.tokens] using hinside.sign '[' rfl rfl
  | _, _, .emptyObject hw =>
      have hclose := (h.sign '\x7d' rfl rfl).blanks hw
      have hopen := hclose.sign '\x7b' rfl rfl
      simpa [Document.tokens, membersTokens] using hopen
  | _, _, .object hmembers =>
      have hclose := h.sign '\x7d' rfl rfl
      have hinside := Lexes.members hmembers (stops_cons rfl (by decide)) hclose
      simpa [Document.tokens] using hinside.sign '\x7b' rfl rfl

/-- A document with blanks around it has the tokens of the document. -/
theorem Lexes.text {d : Document} {cs rest : List Char} {ts : List Token} (hd : SpellsText d cs)
    (hstops : Stops rest) (h : Lexes rest ts) : Lexes (cs ++ rest) (d.tokens ++ ts) := by
  match cs, hd with
  | _, .mk hw hd hu =>
      have hvalue := Lexes.value hd (hstops.blanks hu) (h.blanks hu)
      simpa using hvalue.blanks hw

/-- Items have their tokens, with commas between them. -/
theorem Lexes.items {ds : List Document} {cs rest : List Char} {ts : List Token}
    (hds : SpellsItems ds cs) (hstops : Stops rest) (h : Lexes rest ts) :
    Lexes (cs ++ rest) (itemsTokens ds ++ ts) := by
  match ds, cs, hds with
  | _, _, .one hd => exact Lexes.text hd hstops h
  | _, _, .cons hd hds =>
      have hcomma := (Lexes.items hds hstops h).sign ',' rfl rfl
      have hfirst := Lexes.text hd (stops_cons rfl (by decide)) hcomma
      rw [itemsTokens_cons hds.ne_nil]
      simpa using hfirst

/-- Members have their tokens, with commas between them. -/
theorem Lexes.members {ms : List (Option String × Document)} {cs rest : List Char}
    {ts : List Token} (hms : SpellsMembers ms cs) (hstops : Stops rest) (h : Lexes rest ts) :
    Lexes (cs ++ rest) (membersTokens ms ++ ts) := by
  match ms, cs, hms with
  | _, _, .one hkey hd =>
      have hfirst := (Lexes.text hd hstops h).key hkey
      simpa [membersTokens] using hfirst
  | _, _, .cons hkey hd hms =>
      have hcomma := (Lexes.members hms hstops h).sign ',' rfl rfl
      have hfirst := (Lexes.text hd (stops_cons rfl (by decide)) hcomma).key hkey
      rw [membersTokens_cons hms.ne_nil]
      simpa using hfirst

end

/-- **A JSON text is cut into the tokens of the document that it spells.** -/
theorem tokens_of_spellsText {d : Document} {cs : List Char} (h : SpellsText d cs) :
    tokens cs = d.tokens := by
  have hlexes := (Lexes.text h stops_nil lexes_nil).tokens_eq
  simpa using hlexes

end Scenarist.Json
