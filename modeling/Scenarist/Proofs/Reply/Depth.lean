import Scenarist.Proofs.Reply.Balance

/-!
# The Depth of Braces

What the search for an object finds, said without its scan. The literals of a text are left out
first (`unquoted`): a quote begins one, it ends at the next quote, and a backslash in it takes the
character behind it along. What is left has a depth, the number of braces that it opens less the
number of those that it closes (`depth`).

Where the scan stands is then read off the text before it: its counter is the depth of that text
(`Passes.depth_eq`), and from the first opening brace on this is positive until the object ends
(`Passes.depth_pos`). So no brace is ever taken from a counter that is zero, and the object ends
where the depth is zero for the first time.

## Main results

* `Passes.depth_pos`: **the counter stays positive** until the object ends.
* `Passes.depth_eq`: **the counter is the depth** of what was passed over.
* `balancedFrom_eq_some_iff_depth`: what a scan finds is the shortest text that closes all braces.
* `balancedObject?_shortest`: **the object that is found**, on all texts.
-/

namespace Scenarist.Reply

open Json

variable {s t u : Scan} {c : Char} {xs ys cs o p : List Char} {n : Nat}

/-! ### What stands outside of literals -/

/-- What stands behind the literal whose inside is at the start of the text; nothing if the literal
does not end. -/
def behindLiteral : List Char → List Char
  | '\\' :: _ :: cs => behindLiteral cs
  | '"' :: cs => cs
  | _ :: cs => behindLiteral cs
  | [] => []

/-- What is left behind a literal is no longer than the text. -/
theorem length_behindLiteral_le (cs : List Char) : (behindLiteral cs).length ≤ cs.length := by
  fun_induction behindLiteral cs <;> simp only [List.length_cons, List.length_nil] <;> omega

/-- A character that is neither a quote nor a backslash belongs to the literal. -/
theorem behindLiteral_cons (hslash : c ≠ '\\') (hquote : c ≠ '"') (cs : List Char) :
    behindLiteral (c :: cs) = behindLiteral cs := by
  rw [behindLiteral]
  · exact fun _ _ h _ => hslash h
  · exact hquote

/-- **What stands outside of the literals** of a text. -/
def unquoted : List Char → List Char
  | [] => []
  | c :: cs => if c = '"' then unquoted (behindLiteral cs) else c :: unquoted cs
termination_by cs => cs.length
decreasing_by
  · exact Nat.lt_succ_of_le (length_behindLiteral_le cs)
  · exact Nat.lt_succ_self _

/-- **The depth** of a text: how many braces it leaves open, those in literals left aside. -/
def depth (cs : List Char) : Int := (unquoted cs).count '\x7b' - (unquoted cs).count '\x7d'

/-- There is no brace in the empty text. -/
theorem depth_nil : depth [] = 0 := by
  rw [depth, unquoted]
  rfl

/-- A literal counts for nothing. -/
theorem depth_quote (cs : List Char) : depth ('"' :: cs) = depth (behindLiteral cs) := by
  rw [depth, unquoted, if_pos rfl, depth]

/-- What a character outside of literals adds to the depth. -/
def weight (c : Char) : Int := if c = '\x7b' then 1 else if c = '\x7d' then -1 else 0

/-- Outside of literals each character counts by its weight. -/
theorem depth_cons (hc : c ≠ '"') (cs : List Char) : depth (c :: cs) = weight c + depth cs := by
  rw [depth, unquoted, if_neg hc, depth, weight]
  by_cases hopen : c = '\x7b'
  · subst hopen
    simp
    omega
  · by_cases hclose : c = '\x7d'
    · subst hclose
      simp
      omega
    · simp [hopen, hclose]

/-! ### The counter of the scan -/

/-- What does not end the object leaves a brace open. -/
theorem Scan.depth_step_pos (hopen : s.closes c = false) (hs : 0 < s.depth) :
    0 < (s.step c).depth := by
  simp only [Scan.closes, Bool.and_eq_false_iff, Bool.not_eq_false', beq_eq_false_iff_ne] at hopen
  unfold Scan.step
  split_ifs <;> grind

/-- **The counter stays positive** until the object ends. -/
theorem Passes.depth_pos (h : Passes s xs t) (hs : 0 < s.depth) : 0 < t.depth := by
  induction h with
  | nil => exact hs
  | cons hopen _ ih => exact ih (Scan.depth_step_pos hopen hs)

/-- The counter after a character outside of literals. -/
theorem Scan.step_outside (hc : c ≠ '"') (hn : 0 < n) :
    ∃ m : Nat, (Scan.outside n).step c = .outside m ∧ (m : Int) = n + weight c := by
  rw [weight]
  by_cases hopen : c = '\x7b'
  · subst hopen
    exact ⟨n + 1, rfl, by simp⟩
  · by_cases hclose : c = '\x7d'
    · subst hclose
      exact ⟨n - 1, rfl, by simp; omega⟩
    · exact ⟨n, by simp [Scan.step, Scan.outside, hc, hopen, hclose], by simp [hopen, hclose]⟩

/-- **A scan inside a literal** is still there at the end of the text, with its counter as it was,
or it passes over what stands behind the literal. -/
theorem passes_behindLiteral (h : Passes (.inside n) cs t) :
    (t.inString = true ∧ t.depth = n ∧ behindLiteral cs = []) ∨
      (Passes (.outside n) (behindLiteral cs) t ∧
        ∀ ys, behindLiteral (cs ++ ys) = behindLiteral cs ++ ys) := by
  fun_induction behindLiteral cs with
  | case1 c cs ih =>
      cases h with
      | cons _ h =>
          cases h with
          | cons _ h => exact ih h
  | case2 cs =>
      cases h with
      | cons _ h => exact .inr ⟨h, fun _ => rfl⟩
  | case3 c cs hslash hquote ih =>
      cases h with
      | cons _ h =>
          by_cases hc : c = '\\'
          · -- a backslash at the end of the text
            subst hc
            cases cs with
            | nil =>
                cases h
                exact .inl ⟨rfl, rfl, rfl⟩
            | cons d cs => exact absurd rfl (hslash d cs rfl)
          · have hquote : c ≠ '"' := hquote
            have hstep : (Scan.inside n).step c = .inside n := by
              simp [Scan.step, Scan.inside, hc, hquote]
            rw [hstep] at h
            rcases ih h with hinside | ⟨hpass, happend⟩
            · exact .inl hinside
            · refine .inr ⟨hpass, fun ys => ?_⟩
              rw [List.cons_append, behindLiteral_cons hc hquote, happend]
  | case4 =>
      cases h
      exact .inl ⟨rfl, rfl, rfl⟩

/-- **The counter is the depth** of what was passed over. -/
theorem Passes.depth_eq (h : Passes (.outside n) xs t) (hn : 0 < n) :
    (t.depth : Int) = n + depth xs := by
  fun_induction unquoted xs generalizing n with
  | case1 =>
      cases h
      rw [depth_nil, Int.add_zero]
      rfl
  | case2 cs ih =>
      cases h with
      | cons _ h =>
          rw [depth_quote]
          rcases passes_behindLiteral h with ⟨-, hdepth, hnil⟩ | ⟨hpass, -⟩
          · rw [hdepth, hnil, depth_nil, Int.add_zero]
            rfl
          · exact ih hpass hn
  | case3 c cs hc ih =>
      cases h with
      | cons hopen h =>
          obtain ⟨m, hstep, hm⟩ := Scan.step_outside hc hn
          have hpos : 0 < ((Scan.outside n).step c).depth := Scan.depth_step_pos hopen hn
          rw [hstep] at h hpos
          rw [ih h hpos, hm, depth_cons hc, Int.add_assoc]

/-- Behind a place outside of literals the depth is counted anew. -/
theorem Passes.depth_append (h : Passes (.outside n) xs t) (hn : 0 < n)
    (ht : t.inString = false) (ys : List Char) : depth (xs ++ ys) = depth xs + depth ys := by
  fun_induction unquoted xs generalizing n with
  | case1 => rw [List.nil_append, depth_nil, Int.zero_add]
  | case2 cs ih =>
      cases h with
      | cons _ h =>
          rcases passes_behindLiteral h with ⟨hinside, -⟩ | ⟨hpass, happend⟩
          · rw [hinside] at ht
            cases ht
          · rw [List.cons_append, depth_quote, happend, ih hpass hn, depth_quote]
  | case3 c cs hc ih =>
      cases h with
      | cons hopen h =>
          obtain ⟨m, hstep, -⟩ := Scan.step_outside hc hn
          have hpos : 0 < ((Scan.outside n).step c).depth := Scan.depth_step_pos hopen hn
          rw [hstep] at h hpos
          rw [List.cons_append, depth_cons hc, ih h hpos, depth_cons hc, Int.add_assoc]

/-! ### Where the object ends -/

/-- A scan that goes over two texts goes over the one and then over the other. -/
theorem Passes.of_append (h : Passes s (xs ++ ys) t) : ∃ u, Passes s xs u ∧ Passes u ys t := by
  induction xs generalizing s with
  | nil => exact ⟨s, .nil, h⟩
  | cons c xs ih =>
      cases h with
      | cons hopen h =>
          obtain ⟨u, hx, hy⟩ := ih h
          exact ⟨u, .cons hopen hx, hy⟩

/-- A beginning of a text that is passed over leaves a brace open. -/
theorem Passes.depth_prefix_pos (h : Passes (.outside n) xs t) (hn : 0 < n) (hp : p <+: xs) :
    0 < n + depth p := by
  obtain ⟨rest, rfl⟩ := hp
  obtain ⟨u, hpass, -⟩ := h.of_append
  have hpos : 0 < u.depth := hpass.depth_pos hn
  have heq := hpass.depth_eq hn
  omega

/-- Nothing is found exactly if the scan goes over the whole text. -/
theorem balancedFrom_eq_none_iff : balancedFrom s cs = none ↔ ∃ t, Passes s cs t := by
  constructor
  · intro h
    induction cs generalizing s with
    | nil => exact ⟨s, .nil⟩
    | cons c cs ih =>
        rw [balancedFrom] at h
        by_cases hc : s.closes c = true
        · rw [if_pos hc] at h
          cases h
        · rw [if_neg hc, Option.map_eq_none_iff] at h
          obtain ⟨t, hpass⟩ := ih h
          exact ⟨t, .cons (by simpa using hc) hpass⟩
  · rintro ⟨t, hpass⟩
    have hscan := balancedFrom_append hpass []
    rw [List.append_nil] at hscan
    rw [hscan]
    rfl

/-- **What a scan finds is the shortest text that closes all braces**, those that were open before
and those that it opens itself. -/
theorem balancedFrom_eq_some_iff_depth (hn : 0 < n) : balancedFrom (.outside n) cs = some o ↔
    o <+: cs ∧ n + depth o = 0 ∧ ∀ p, p <+: o → p ≠ o → 0 < n + depth p := by
  have hfound : ∀ {cs o}, balancedFrom (.outside n) cs = some o →
      o <+: cs ∧ n + depth o = 0 ∧ ∀ p, p <+: o → p ≠ o → 0 < n + depth p := by
    intro cs o h
    obtain ⟨xs, c, ys, t, rfl, hpass, hcloses, rfl⟩ := balancedFrom_eq_some_iff.1 h
    simp only [Scan.closes, Bool.and_eq_true, Bool.not_eq_true', beq_iff_eq] at hcloses
    obtain ⟨⟨houtside, rfl⟩, hone⟩ := hcloses
    refine ⟨⟨ys, by simp⟩, ?_, fun p hp hne => ?_⟩
    · have heq := hpass.depth_eq hn
      have hlast : depth ['\x7d'] = -1 := by simp [depth_cons, depth_nil, weight]
      rw [hpass.depth_append hn houtside, hlast]
      omega
    · exact hpass.depth_prefix_pos hn ((List.prefix_concat_iff.1 hp).resolve_left hne)
  refine ⟨hfound, ?_⟩
  rintro ⟨⟨after, hcs⟩, hzero, hpos⟩
  cases hscan : balancedFrom (.outside n) o with
  | none =>
      -- then the whole text would be passed over, with a brace open at its end
      obtain ⟨t, hpass⟩ := balancedFrom_eq_none_iff.1 hscan
      have hopen := hpass.depth_prefix_pos hn List.prefix_rfl
      omega
  | some o' =>
      obtain ⟨hbegins, hzero', -⟩ := hfound hscan
      have heq : o' = o := by
        by_contra hne
        have hopen := hpos o' hbegins hne
        omega
      rw [← hcs, balancedFrom_append_of_some (heq ▸ hscan)]

/-! ### The first object of a text -/

/-- The search starts to count behind the first opening brace. -/
theorem balancedObject?_brace (hbefore : '\x7b' ∉ xs) (cs : List Char) :
    balancedObject? (xs ++ '\x7b' :: cs) =
      (balancedFrom (.outside 1) cs).map ('\x7b' :: ·) := by
  rw [balancedObject?_append hbefore, balancedObject?, List.dropWhile_cons_of_neg (by simp)]
  rfl

/-- An opening brace counts for one. -/
theorem depth_brace (cs : List Char) : depth ('\x7b' :: cs) = 1 + depth cs :=
  depth_cons (by decide) cs

/-- The second text begins at the first opening brace of the first one and **closes all braces**
that it opens. -/
structure ClosesBraces (text o : List Char) : Prop where
  place : ∃ before after, text = before ++ (o ++ after) ∧ '\x7b' ∉ before
  first : o.head? = some '\x7b'
  closed : depth o = 0

/-- The first brace is closed by a text that begins with it and counts for nothing as a whole. -/
theorem closesBraces_iff {text : List Char} : ClosesBraces text o ↔ ∃ before cs after,
    o = '\x7b' :: cs ∧ text = before ++ '\x7b' :: (cs ++ after) ∧ '\x7b' ∉ before ∧
      1 + depth cs = 0 := by
  constructor
  · rintro ⟨⟨before, after, rfl, hbefore⟩, hfirst, hclosed⟩
    obtain ⟨cs, rfl⟩ := List.head?_eq_some_iff.1 hfirst
    exact ⟨before, cs, after, rfl, rfl, hbefore, by rwa [← depth_brace]⟩
  · rintro ⟨before, cs, after, rfl, rfl, hbefore, hclosed⟩
    exact ⟨⟨before, after, rfl, hbefore⟩, rfl, by rwa [depth_brace]⟩

/-- **What is found closes all its braces**, and no shorter text does. -/
theorem balancedObject?_eq_some_iff {text : List Char} : balancedObject? text = some o ↔
    ClosesBraces text o ∧ ∀ p, p <+: o → p ≠ [] → p ≠ o → 0 < depth p := by
  constructor
  · intro h
    have hmem : '\x7b' ∈ text := by
      by_contra hnone
      have hskip := balancedObject?_append hnone []
      rw [List.append_nil, h] at hskip
      cases hskip
    obtain ⟨before, cs, rfl, hbefore⟩ := List.eq_append_cons_of_mem hmem
    rw [balancedObject?_brace hbefore] at h
    obtain ⟨v, hscan, rfl⟩ := Option.map_eq_some_iff.1 h
    obtain ⟨⟨after, rfl⟩, hzero, hpos⟩ := (balancedFrom_eq_some_iff_depth Nat.one_pos).1 hscan
    refine ⟨closesBraces_iff.2 ⟨before, v, after, rfl, rfl, hbefore, hzero⟩, fun p hp hne hlt => ?_⟩
    rcases List.prefix_cons_iff.1 hp with rfl | ⟨q, rfl, hq⟩
    · exact absurd rfl hne
    · rw [depth_brace]
      exact hpos q hq fun heq => hlt (by rw [heq])
  · rintro ⟨hcloses, hpos⟩
    obtain ⟨before, cs, after, rfl, rfl, hbefore, hzero⟩ := closesBraces_iff.1 hcloses
    rw [balancedObject?_brace hbefore]
    refine Option.map_eq_some_iff.2 ⟨cs, ?_, rfl⟩
    refine (balancedFrom_eq_some_iff_depth Nat.one_pos).2 ⟨⟨after, rfl⟩, hzero, fun p hp hne => ?_⟩
    have hopen := hpos ('\x7b' :: p) (List.cons_prefix_cons.2 ⟨rfl, hp⟩) (List.cons_ne_nil _ _)
      (by simpa using hne)
    rwa [depth_brace] at hopen

/-- **An object is found if some text closes all its braces**, and it is the shortest one. -/
theorem ClosesBraces.exists_found {text : List Char} (h : ClosesBraces text o) :
    ∃ o', balancedObject? text = some o' ∧ o' <+: o := by
  obtain ⟨before, cs, after, rfl, rfl, hbefore, hzero⟩ := closesBraces_iff.1 h
  rw [balancedObject?_brace hbefore]
  cases hscan : balancedFrom (.outside 1) (cs ++ after) with
  | none =>
      -- the scan would pass over what closes all braces
      obtain ⟨t, hpass⟩ := balancedFrom_eq_none_iff.1 hscan
      have hopen := hpass.depth_prefix_pos Nat.one_pos (List.prefix_append cs after)
      omega
  | some v =>
      obtain ⟨hv, -, hpos⟩ := (balancedFrom_eq_some_iff_depth Nat.one_pos).1 hscan
      refine ⟨'\x7b' :: v, rfl, List.cons_prefix_cons.2 ⟨rfl, ?_⟩⟩
      rcases List.prefix_or_prefix_of_prefix hv (List.prefix_append cs after) with hle | hle
      · exact hle
      · by_cases heq : cs = v
        · exact heq ▸ List.prefix_rfl
        · have hopen := hpos cs hle heq
          omega

/-- The search for an object in the text **meets** the character where its scan stands so. -/
def Meets (text : List Char) (s : Scan) (c : Char) : Prop :=
  ∃ before after, text.dropWhile (· != '\x7b') = before ++ c :: after ∧ Passes .start before s

/-- **No brace is taken from a counter that is zero.** -/
theorem Meets.depth_pos {text : List Char} (h : Meets text s c) (hc : c ≠ '\x7b') :
    0 < s.depth := by
  obtain ⟨before, after, htext, hpass⟩ := h
  have hfirst := List.head?_dropWhile_not (· != '\x7b') text
  rw [htext] at hfirst
  cases hpass with
  | nil => exact absurd (by simpa using hfirst) hc
  | @cons _ _ d _ _ hpass =>
      obtain rfl : d = '\x7b' := by simpa using hfirst
      exact hpass.depth_pos Nat.one_pos

/-- **The object that is found.** On every text the counter of the scan is positive wherever a
closing brace outside of literals is met. An object is found exactly if some text from the first
opening brace on closes all its braces, those in literals left aside; it is the shortest such text,
the depth being positive in each of its beginnings. And an object of JSON is found whole, whatever
stands behind it and whatever but opening braces stands before it. -/
theorem balancedObject?_shortest :
    (∀ text s, Meets text s '\x7d' → s.inString = false → 0 < s.depth) ∧
    (∀ text, (balancedObject? text).isSome = true ↔ ∃ o, ClosesBraces text o) ∧
    (∀ text o, balancedObject? text = some o ↔
      ClosesBraces text o ∧ ∀ p, p <+: o → p ≠ [] → p ≠ o → 0 < depth p) ∧
    (∀ text o, balancedObject? text = some o → ∀ o', ClosesBraces text o' → o <+: o') ∧
    ∀ before object after, '\x7b' ∉ before → IsObject object →
      balancedObject? (before ++ (object ++ after)) = some object := by
  refine ⟨fun text s hmeets _ => hmeets.depth_pos (by decide), fun text => ⟨fun h => ?_, ?_⟩,
    fun text o => balancedObject?_eq_some_iff, fun text o hfound o' hcloses => ?_,
    fun before object after hbefore hobject => balancedObject?_object hbefore hobject after⟩
  · obtain ⟨o, ho⟩ := Option.isSome_iff_exists.1 h
    exact ⟨o, (balancedObject?_eq_some_iff.1 ho).1⟩
  · rintro ⟨o, hcloses⟩
    obtain ⟨o', hfound, -⟩ := hcloses.exists_found
    rw [hfound]
    rfl
  · obtain ⟨v, hv, hbegins⟩ := hcloses.exists_found
    rw [hfound] at hv
    cases hv
    exact hbegins

/-- The braces and the quotes in a literal are left aside. -/
example : balancedObject? "as \x7b\"a\":\"\x7d\\\"\x7b\\\\\"\x7d said \x7b\x7d".toList =
    some "\x7b\"a\":\"\x7d\\\"\x7b\\\\\"\x7d".toList := by
  decide +kernel

end Scenarist.Reply
