import Scenarist.Proofs.Json.Grammar
import Scenarist.Proofs.Spec.Target
import Scenarist.Reply.Extract

/-!
# The Ends of Objects

The scan for the end of an object against the grammar of JSON. The scan knows braces and quotes
only, and the grammar knows values, so the two are joined by what a scan makes of a value: it goes
over it and leaves open what was open before (`Neutral`). Inside an object one brace is always
open, so nothing before the last brace of an object closes the first one.

What a scan finds is said without the scan (`balancedFrom_eq_some_iff`): a text that it goes over
(`Passes`), and the brace that closes the last open one.

## Main results

* `balancedFrom_eq_some_iff`: **what a scan finds**.
* `neutral_spells`: a value is passed over, whatever its strings hold.
* `balancedObject?_object`: **an object is found whole**, whatever stands behind it.
-/

namespace Scenarist.Reply

open Json

/-! ### Scanning for the end of an object -/

/-- Outside of literals, with `n` braces open. -/
def Scan.outside (n : Nat) : Scan := ⟨n, false, false⟩

/-- Inside a literal, with `n` braces open. -/
def Scan.inside (n : Nat) : Scan := ⟨n, true, false⟩

/-- The scan goes over the text from `s` to `t`, and nothing in the text closes the last open
brace. -/
inductive Passes : Scan → List Char → Scan → Prop where
  | nil {s : Scan} : Passes s [] s
  | cons {s t : Scan} {c : Char} {cs : List Char} (hopen : s.closes c = false)
      (h : Passes (s.step c) cs t) : Passes s (c :: cs) t

variable {s t u : Scan} {c : Char} {xs ys cs o : List Char} {n : Nat}

/-- The scan goes over one text after another. -/
theorem Passes.append (hx : Passes s xs t) (hy : Passes t ys u) : Passes s (xs ++ ys) u := by
  induction hx with
  | nil => exact hy
  | cons hopen _ ih => exact .cons hopen (ih hy)

/-- A scan goes on behind a text that it passes over. -/
theorem balancedFrom_append (h : Passes s xs t) (ys : List Char) :
    balancedFrom s (xs ++ ys) = (balancedFrom t ys).map (xs ++ ·) := by
  induction h with
  | nil => simp
  | cons hopen _ ih =>
      rw [List.cons_append, balancedFrom, hopen, if_neg Bool.false_ne_true, ih]
      simp [Function.comp_def]

/-- **What a scan finds** is a text that it passes over, and the brace that closes the last open
one. -/
theorem balancedFrom_eq_some_iff : balancedFrom s cs = some o ↔
    ∃ xs c ys t, cs = xs ++ c :: ys ∧ Passes s xs t ∧ t.closes c = true ∧ o = xs ++ [c] := by
  constructor
  · intro h
    induction cs generalizing s o with
    | nil => cases h
    | cons c cs ih =>
        rw [balancedFrom] at h
        by_cases hc : s.closes c = true
        · rw [if_pos hc] at h
          obtain rfl := Option.some.inj h
          exact ⟨[], c, cs, s, rfl, .nil, hc, rfl⟩
        · rw [if_neg hc] at h
          obtain ⟨o, hread, rfl⟩ := Option.map_eq_some_iff.1 h
          obtain ⟨xs, d, ys, t, rfl, hpass, hd, rfl⟩ := ih hread
          exact ⟨c :: xs, d, ys, t, rfl, .cons (by simpa using hc) hpass, hd, rfl⟩
  · rintro ⟨xs, c, ys, t, rfl, hpass, hc, rfl⟩
    rw [balancedFrom_append hpass, balancedFrom, if_pos hc]
    rfl

/-- What is found does not depend on what stands behind it. -/
theorem balancedFrom_append_of_some (h : balancedFrom s xs = some o) (ys : List Char) :
    balancedFrom s (xs ++ ys) = some o := by
  obtain ⟨as, c, bs, t, rfl, hpass, hc, rfl⟩ := balancedFrom_eq_some_iff.1 h
  exact balancedFrom_eq_some_iff.2 ⟨as, c, bs ++ ys, t, by simp, hpass, hc, rfl⟩

/-- The characters before the first opening brace are passed over. -/
theorem balancedObject?_append (hx : '\x7b' ∉ xs) (ys : List Char) :
    balancedObject? (xs ++ ys) = balancedObject? ys := by
  have hskip := List.all_eq_true.1 (Spec.all_bne_iff.2 hx)
  rw [balancedObject?, balancedObject?, List.dropWhile_append_of_pos hskip]

/-- An object that is found is found in every longer text. -/
theorem balancedObject?_append_of_some (h : balancedObject? xs = some o) (ys : List Char) :
    balancedObject? (xs ++ ys) = some o := by
  rw [balancedObject?] at h ⊢
  have hne : (xs.dropWhile (· != '\x7b')) ≠ [] := by
    intro hnil
    rw [hnil] at h
    cases h
  rw [List.dropWhile_append, if_neg (by simpa using hne)]
  exact balancedFrom_append_of_some h ys

/-! ### Texts that a scan passes over

The braces of an object are counted inside it only: where no brace is open, the scan ends at a
closing one. So a text is judged where a brace is open.
-/

/-- Where a brace is open, a scan passes over the text and leaves all open braces open. -/
def Neutral (cs : List Char) : Prop :=
  ∀ n, Passes (.outside (n + 1)) cs (.outside (n + 1))

/-- The empty text is neutral. -/
theorem neutral_nil : Neutral [] := fun _ => .nil

/-- Neutral texts can be put together. -/
theorem Neutral.append (hx : Neutral xs) (hy : Neutral ys) : Neutral (xs ++ ys) :=
  fun n => (hx n).append (hy n)

/-- The character says nothing to a scan outside of literals. -/
def isPlain (c : Char) : Bool := c != '"' && c != '\x7b' && c != '\x7d'

/-- A plain character may come before a neutral text. -/
theorem Neutral.cons (hc : isPlain c = true) (h : Neutral cs) : Neutral (c :: cs) := by
  simp only [isPlain, Bool.and_eq_true, bne_iff_ne] at hc
  obtain ⟨⟨hquote, hopen⟩, hclose⟩ := hc
  intro n
  have hstep : (Scan.outside (n + 1)).step c = .outside (n + 1) := by
    simp [Scan.step, Scan.outside, hquote, hopen, hclose]
  refine .cons (by simp [Scan.closes, hclose]) ?_
  rw [hstep]
  exact h n

/-- Plain characters are neutral. -/
theorem neutral_of_all (h : cs.all isPlain = true) : Neutral cs := by
  induction cs with
  | nil => exact neutral_nil
  | cons c cs ih =>
      rw [List.all_cons, Bool.and_eq_true] at h
      exact (ih h.2).cons h.1

/-- Blanks are neutral. -/
theorem neutral_blanks (h : Blanks cs) : Neutral cs := by
  refine neutral_of_all (List.all_eq_true.2 fun c hc => ?_)
  have hspace : isSpace c = true := List.all_eq_true.1 h c hc
  simp only [isSpace, Bool.or_eq_true, beq_iff_eq] at hspace
  rcases hspace with ((rfl | rfl) | rfl) | rfl <;> decide

/-- Digits are neutral. -/
theorem neutral_digits (h : Digits cs) : Neutral cs := by
  refine neutral_of_all (List.all_eq_true.2 fun c hc => ?_)
  have hdigit : c.isDigit = true := List.all_eq_true.1 h.2 c hc
  simp only [isPlain, Bool.and_eq_true, bne_iff_ne]
  refine ⟨⟨?_, ?_⟩, ?_⟩ <;>
    · rintro rfl
      exact absurd hdigit (by decide)

/-- Numbers are neutral, with their signs, points and exponents. -/
theorem neutral_number (h : IsNumber cs) : Neutral cs := by
  cases h with
  | @mk sign whole fraction exponent hsign hwhole hzero hfraction hexponent =>
      have hsigned : Neutral sign := by
        rcases hsign with rfl | rfl
        · exact neutral_nil
        · exact neutral_nil.cons rfl
      have hpoint : Neutral fraction := by
        cases hfraction with
        | none => exact neutral_nil
        | some h => exact (neutral_digits h).cons rfl
      have hpower : Neutral exponent := by
        cases hexponent with
        | none => exact neutral_nil
        | some he hsign h =>
            have hletter := neutral_digits h
            rcases he with rfl | rfl <;> rcases hsign with rfl | rfl | rfl <;>
              exact (neutral_of_all rfl).append hletter |>.cons rfl
      exact hsigned.append ((neutral_digits hwhole).append (hpoint.append hpower))

/-! ### Literals -/

/-- Inside a literal, all but a quote and a backslash is passed over. -/
theorem Passes.inside_cons (hquote : c ≠ '"') (hslash : c ≠ '\\')
    (h : Passes (.inside n) cs t) : Passes (.inside n) (c :: cs) t := by
  have hstep : (Scan.inside n).step c = .inside n := by
    simp [Scan.step, Scan.inside, hquote, hslash]
  refine .cons rfl ?_
  rw [hstep]
  exact h

/-- Inside a literal, the digits of an escaped character are passed over. -/
theorem Passes.hex_cons (hc : Text.isHexDigit c = true) (h : Passes (.inside n) cs t) :
    Passes (.inside n) (c :: cs) t := by
  refine h.inside_cons ?_ ?_ <;>
    · rintro rfl
      exact absurd hc (by decide)

/-- The inside of a literal is passed over, with the braces and the escaped quotes in it. -/
theorem Passes.body (h : LiteralBody cs) (n : Nat) : Passes (.inside n) cs (.inside n) := by
  induction h with
  | nil => exact .nil
  | plain hquote hslash _ _ ih => exact ih.inside_cons hquote hslash
  | escape _ _ ih => exact .cons rfl (.cons rfl ih)
  | @code x y z t cs hdigits _ ih =>
      simp only [List.all_cons, List.all_nil, Bool.and_eq_true, Bool.and_true] at hdigits
      obtain ⟨hx, hy, hz, ht⟩ := hdigits
      have hcode := (((ih.hex_cons ht).hex_cons hz).hex_cons hy).hex_cons hx
      exact .cons rfl (.cons rfl hcode)

/-- **A literal is neutral**, whatever braces are in it. -/
theorem neutral_literal (h : LiteralBody cs) {rest : List Char} (hrest : Neutral rest) :
    Neutral ('"' :: (cs ++ '"' :: rest)) := by
  intro n
  refine .cons rfl ((Passes.body h (n + 1)).append (.cons rfl ?_))
  exact hrest n

/-- A neutral text in braces is neutral: what is opened is closed. -/
theorem neutral_braces (h : Neutral cs) : Neutral ('\x7b' :: (cs ++ ['\x7d'])) := by
  intro n
  refine .cons rfl ((h (n + 1)).append (.cons ?_ .nil))
  simp [Scan.closes, Scan.outside]

/-- A neutral text in brackets is neutral, for brackets are not counted. -/
theorem neutral_brackets (h : Neutral cs) : Neutral ('[' :: (cs ++ [']'])) :=
  (h.append (neutral_nil.cons rfl)).cons rfl

/-- A key and its colon may come before a neutral text. -/
theorem neutral_key {k : Option String} (h : SpellsKey k xs) (hrest : Neutral ys) :
    Neutral (xs ++ ':' :: ys) := by
  cases h with
  | @mk w body u hw hbody hu =>
      have hcolon : Neutral (u ++ ':' :: ys) := (neutral_blanks hu).append (hrest.cons rfl)
      have hliteral := (neutral_blanks hw).append (neutral_literal hbody hcolon)
      simpa using hliteral

mutual

/-- **A value is passed over.** -/
theorem neutral_spells {d : Document} {cs : List Char} (h : Spells d cs) : Neutral cs := by
  match d, cs, h with
  | _, _, .null => exact neutral_of_all rfl
  | _, _, .bool true => exact neutral_of_all rfl
  | _, _, .bool false => exact neutral_of_all rfl
  | _, _, .number hnumber => exact neutral_number hnumber
  | _, _, .string hbody => exact neutral_literal hbody neutral_nil
  | _, _, .emptyArray hw => exact neutral_brackets (neutral_blanks hw)
  | _, _, .array hitems => exact neutral_brackets (neutral_items hitems)
  | _, _, .emptyObject hw => exact neutral_braces (neutral_blanks hw)
  | _, _, .object hmembers => exact neutral_braces (neutral_members hmembers)

/-- A document with blanks around it is neutral. -/
theorem neutral_text {d : Document} {cs : List Char} (h : SpellsText d cs) : Neutral cs := by
  match cs, h with
  | _, .mk hw hd hu =>
      exact (neutral_blanks hw).append ((neutral_spells hd).append (neutral_blanks hu))

/-- The items of an array are neutral, with their commas. -/
theorem neutral_items {ds : List Document} {cs : List Char} (h : SpellsItems ds cs) :
    Neutral cs := by
  match ds, cs, h with
  | _, _, .one hd => exact neutral_text hd
  | _, _, .cons hd hds => exact (neutral_text hd).append ((neutral_items hds).cons rfl)

/-- The members of an object are neutral, with their commas. -/
theorem neutral_members {ms : List (Option String × Document)} {cs : List Char}
    (h : SpellsMembers ms cs) : Neutral cs := by
  match ms, cs, h with
  | _, _, .one hkey hd => exact neutral_key hkey (neutral_text hd)
  | _, _, .cons hkey hd hms =>
      exact neutral_key hkey ((neutral_text hd).append ((neutral_members hms).cons rfl))

end

/-- An object has braces around a text that is passed over. -/
theorem exists_inside_of_isObject (h : IsObject cs) :
    ∃ xs, cs = '\x7b' :: (xs ++ ['\x7d']) ∧ Neutral xs := by
  obtain ⟨members, h⟩ := h
  cases h with
  | emptyObject hw => exact ⟨_, rfl, neutral_blanks hw⟩
  | object hmembers => exact ⟨_, rfl, neutral_members hmembers⟩

/-- **An object is found whole**, whatever stands behind it and, but for opening braces, before
it. -/
theorem balancedObject?_object {before object : List Char} (hbefore : '\x7b' ∉ before)
    (h : IsObject object) (after : List Char) :
    balancedObject? (before ++ (object ++ after)) = some object := by
  obtain ⟨xs, rfl, hinside⟩ := exists_inside_of_isObject h
  have hpass : Passes .start ('\x7b' :: xs) (.outside 1) := .cons rfl (hinside 0)
  have hfound : balancedFrom .start ('\x7b' :: (xs ++ ['\x7d'])) =
      some ('\x7b' :: (xs ++ ['\x7d'])) :=
    balancedFrom_eq_some_iff.2 ⟨'\x7b' :: xs, '\x7d', [], .outside 1, rfl, hpass, rfl, rfl⟩
  rw [balancedObject?_append hbefore, balancedObject?, List.cons_append,
    List.dropWhile_cons_of_neg (by simp)]
  exact balancedFrom_append_of_some hfound after

end Scenarist.Reply
