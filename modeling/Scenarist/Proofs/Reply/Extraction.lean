import Scenarist.Proofs.Reply.Balance
import Scenarist.Proofs.Json.Printer
import Scenarist.Reply.Scenarios
import Scenarist.Text.Search
import Mathlib.Data.List.Basic

/-!
# The Objects of Replies

What is extracted from a reply, said without the extraction. A fence is three signs in a row
wherever they stand (`CutAtFence`), and a fenced block goes from the line after the first fence to
the next fence (`FencedBlock`). The object is taken from the first block if it has one, and from
the whole reply otherwise.

A block may end inside of an object, at a fence in one of its strings. That does no harm to an
object behind a fence: what is found in a part of a text is found in the text. It does harm to a
reply that is nothing but an object, for there the first fence is inside of a string as well, and
what stands between the two may hold an object of its own. `parseScenarios_object` says when.

## Main results

* `fencedBlock?_eq_some_iff`: the first fenced block.
* `extract?_fenced`: **the object after a fence is found**, whatever its strings hold.
* `parseScenarios_object`: **a reply that is an object is read as that object** exactly if no
  fenced block in it has balanced braces.
-/

namespace Scenarist.Reply

open Json

variable {c : Char} {cs line rest before after inside block object : List Char}

/-! ### Fences -/

/-- The text is cut at its **first fence**. -/
structure CutAtFence (cs before after : List Char) : Prop where
  parts : cs = before ++ (fence ++ after)
  first : ∀ a b, cs = a ++ (fence ++ b) → before.length ≤ a.length

/-- A fence in front cuts off nothing. -/
theorem cutAtFence_nil (after : List Char) : CutAtFence (fence ++ after) [] after :=
  ⟨rfl, fun _ _ _ => Nat.zero_le _⟩

/-- There is only one first fence. -/
theorem CutAtFence.unique {before' after' : List Char} (h : CutAtFence cs before after)
    (h' : CutAtFence cs before' after') : before = before' ∧ after = after' := by
  have hlength : before.length = before'.length :=
    Nat.le_antisymm (h.first _ _ h'.parts) (h'.first _ _ h.parts)
  obtain ⟨hbefore, hfence⟩ := List.append_inj (h.parts.symm.trans h'.parts) hlength
  exact ⟨hbefore, List.append_cancel_left hfence⟩

/-- Where no fence begins, the first fence is that of the rest. -/
theorem cutAtFence_cons_iff (hc : fence.isPrefixOf? (c :: cs) = none) :
    CutAtFence (c :: cs) before after ↔ ∃ b, before = c :: b ∧ CutAtFence cs b after := by
  have hnot : ∀ b, c :: cs ≠ fence ++ b := by
    intro b hb
    have hsome : fence.isPrefixOf? (c :: cs) = some b := by
      rw [hb, List.isPrefixOf?_eq_some_iff_append_eq]
    rw [hc] at hsome
    cases hsome
  constructor
  · intro h
    cases before with
    | nil => exact absurd h.parts (hnot after)
    | cons d b =>
        obtain ⟨rfl, hparts⟩ := List.cons.inj h.parts
        refine ⟨b, rfl, hparts, fun x y hxy => ?_⟩
        have hle := h.first (c :: x) y (by rw [hxy, List.cons_append])
        exact Nat.le_of_succ_le_succ hle
  · rintro ⟨b, rfl, h⟩
    refine ⟨by rw [h.parts, List.cons_append], fun x y hxy => ?_⟩
    cases x with
    | nil => exact absurd hxy (hnot y)
    | cons d x =>
        obtain ⟨-, hxy⟩ := List.cons.inj hxy
        exact Nat.succ_le_succ (h.first x y hxy)

/-- The search stops at the first fence. -/
theorem splitFence?_eq_some_iff :
    splitFence? cs = some (before, after) ↔ CutAtFence cs before after := by
  induction cs generalizing before with
  | nil =>
      constructor
      · intro h
        cases h
      · rintro ⟨hparts, -⟩
        cases before <;> cases hparts
  | cons c cs ih =>
      rw [splitFence?]
      cases hprefix : fence.isPrefixOf? (c :: cs) with
      | some rest =>
          have hcut : CutAtFence (c :: cs) [] rest := by
            rw [← List.isPrefixOf?_eq_some_iff_append_eq.1 hprefix]
            exact cutAtFence_nil rest
          constructor
          · rintro ⟨⟩
            exact hcut
          · intro h
            obtain ⟨rfl, rfl⟩ := hcut.unique h
            rfl
      | none =>
          rw [cutAtFence_cons_iff hprefix, Option.map_eq_some_iff]
          constructor
          · rintro ⟨⟨b, a⟩, hsplit, heq⟩
            obtain ⟨rfl, rfl⟩ := Prod.mk.inj heq
            exact ⟨b, rfl, ih.1 hsplit⟩
          · rintro ⟨b, rfl, hcut⟩
            exact ⟨(b, after), ih.2 hcut, rfl⟩

/-- The text after the first line end, or all of it if it has none. -/
inductive AfterLine : List Char → List Char → Prop where
  | lineEnd {line rest : List Char} (h : '\n' ∉ line) : AfterLine (line ++ '\n' :: rest) rest
  | single {cs : List Char} (h : '\n' ∉ cs) : AfterLine cs cs

/-- What comes after the first line comes after its newline. -/
theorem afterFirstLine_append (h : '\n' ∉ line) (rest : List Char) :
    afterFirstLine (line ++ '\n' :: rest) = rest := by
  have hline := List.all_eq_true.1 (Spec.all_bne_iff.2 h)
  rw [afterFirstLine, List.dropWhile_append_of_pos hline, List.dropWhile_cons_of_neg (by simp)]

/-- A text of one line is not cut. -/
theorem afterFirstLine_of_not_mem (h : '\n' ∉ cs) : afterFirstLine cs = cs := by
  have hline := List.all_eq_true.1 (Spec.all_bne_iff.2 h)
  rw [afterFirstLine, List.dropWhile_eq_nil_iff.2 hline]

/-- **What comes after the first line.** -/
theorem afterFirstLine_eq_iff : afterFirstLine cs = rest ↔ AfterLine cs rest := by
  constructor
  · rintro rfl
    by_cases hmem : '\n' ∈ cs
    · obtain ⟨line, rest, rfl, hline⟩ := List.eq_append_cons_of_mem hmem
      rw [afterFirstLine_append hline]
      exact .lineEnd hline
    · rw [afterFirstLine_of_not_mem hmem]
      exact .single hmem
  · intro h
    cases h with
    | lineEnd hline => exact afterFirstLine_append hline rest
    | single hline => exact afterFirstLine_of_not_mem hline

/-- The text is the inside of the **first fenced block**, which begins after the line of the first
fence and ends at the next one. -/
def FencedBlock (cs block : List Char) : Prop :=
  ∃ before after inside rest, CutAtFence cs before after ∧ AfterLine after inside ∧
    CutAtFence inside block rest

/-- **Which block is found between fences.** -/
theorem fencedBlock?_eq_some_iff : fencedBlock? cs = some block ↔ FencedBlock cs block := by
  constructor
  · intro h
    simp only [fencedBlock?, Option.bind_eq_bind, Option.bind_eq_some_iff] at h
    obtain ⟨⟨before, after⟩, hopen, ⟨_, rest⟩, hclose, ⟨⟩⟩ := h
    exact ⟨before, after, _, rest, splitFence?_eq_some_iff.1 hopen, afterFirstLine_eq_iff.1 rfl,
      splitFence?_eq_some_iff.1 hclose⟩
  · rintro ⟨before, after, inside, rest, hopen, hline, hclose⟩
    rw [fencedBlock?, splitFence?_eq_some_iff.2 hopen]
    dsimp only [Option.bind_eq_bind, Option.bind_some]
    rw [afterFirstLine_eq_iff.2 hline, splitFence?_eq_some_iff.2 hclose]
    rfl

/-- The block is shorter than the text. -/
theorem FencedBlock.length_lt (h : FencedBlock cs block) : block.length < cs.length := by
  obtain ⟨before, after, inside, rest, hopen, hline, hclose⟩ := h
  have hfence : fence.length = 3 := rfl
  have hinside : inside.length ≤ after.length := by
    cases hline with
    | lineEnd _ => simp only [List.length_append, List.length_cons]; omega
    | single _ => exact Nat.le_refl _
  rw [hclose.parts] at hinside
  rw [hopen.parts]
  simp only [List.length_append] at hinside ⊢
  omega

/-! ### Objects in replies -/

/-- What is found is not longer than the text. -/
theorem balancedObject?_length_le (h : balancedObject? cs = some object) :
    object.length ≤ cs.length := by
  obtain ⟨xs, c, ys, t, hparts, -, -, rfl⟩ := balancedFrom_eq_some_iff.1 h
  have hsuffix := (List.dropWhile_suffix (l := cs) (· != '\x7b')).length_le
  rw [hparts] at hsuffix
  simp only [List.length_append, List.length_cons, List.length_nil] at hsuffix ⊢
  omega

/-- The object is that of the first fenced block if it has one. -/
theorem extract?_of_block (hblock : FencedBlock cs block)
    (h : balancedObject? block = some object) : extract? cs = some object := by
  rw [extract?, fencedBlock?_eq_some_iff.2 hblock, Option.bind_some, h]

/-- The object is that of the whole reply if no fenced block has one. -/
theorem extract?_of_no_block (h : ∀ block, FencedBlock cs block → balancedObject? block = none) :
    extract? cs = balancedObject? cs := by
  have hnone : (fencedBlock? cs).bind balancedObject? = none := by
    rw [Option.bind_eq_none_iff]
    intro block hblock
    exact h block (fencedBlock?_eq_some_iff.1 hblock)
  rw [extract?, hnone]

/-- The first block begins where the line of the first fence ends. -/
theorem FencedBlock.exists_rest (h : FencedBlock cs block) (hcut : CutAtFence cs before after)
    (hline : AfterLine after inside) : ∃ rest, inside = block ++ (fence ++ rest) := by
  obtain ⟨before', after', inside', rest, hcut', hline', hclose⟩ := h
  obtain ⟨-, rfl⟩ := hcut.unique hcut'
  obtain rfl : inside = inside' :=
    (afterFirstLine_eq_iff.2 hline).symm.trans (afterFirstLine_eq_iff.2 hline')
  exact ⟨rest, hclose.parts⟩

/-- An object is extracted if it is found behind the first fence and in the whole reply, even where
the block behind the fence is cut short. -/
theorem extract?_of_found {reply : List Char} (hcut : CutAtFence reply before after)
    (hline : AfterLine after inside) (hinside : balancedObject? inside = some object)
    (hreply : balancedObject? reply = some object) : extract? reply = some object := by
  by_cases hfind : ∃ block found, FencedBlock reply block ∧ balancedObject? block = some found
  · -- The block may end inside of the object, but what is found in it is found in the text too.
    obtain ⟨block, found, hblock, hfound⟩ := hfind
    obtain ⟨behind, hparts⟩ := hblock.exists_rest hcut hline
    have hsame := balancedObject?_append_of_some hfound (fence ++ behind)
    rw [← hparts, hinside] at hsame
    rw [extract?_of_block hblock hfound, hsame]
  · rw [extract?_of_no_block, hreply]
    intro block hblock
    rw [Option.eq_none_iff_forall_ne_some]
    intro found hfound
    exact hfind ⟨block, found, hblock, hfound⟩

/-- A text without the sign of fences holds none. -/
theorem cutAtFence_of_not_mem (h : '\x60' ∉ before) (after : List Char) :
    CutAtFence (before ++ (fence ++ after)) before after := by
  refine ⟨rfl, fun a b heq => ?_⟩
  rcases List.append_eq_append_iff.1 heq with ⟨c, rfl, -⟩ | ⟨c, rfl, hfence⟩
  · rw [List.length_append]
    exact Nat.le_add_right _ _
  · cases c with
    | nil => rw [List.append_nil]
    | cons x c =>
        have hx : '\x60' = x := (List.cons.inj hfence).1
        subst hx
        exact absurd (List.mem_append_right a List.mem_cons_self) h

/-- No blank is a brace. -/
theorem openBrace_not_mem_blank (hw : cs.all Text.isBlank = true) : '\x7b' ∉ cs := by
  intro hmem
  have hblank : Text.isBlank '\x7b' = true := List.all_eq_true.1 hw _ hmem
  exact absurd hblank (by decide)

/-- **The object after a fence is found**, whatever its strings hold and whatever stands behind
it. -/
theorem extract?_fenced {prose info w : List Char}
    (hprose : '\x60' ∉ prose ∧ '\x7b' ∉ prose)
    (hinfo : '\x7b' ∉ info ∧ '\n' ∉ info) (hw : w.all Text.isBlank = true)
    (h : IsObject object) (rest : List Char) :
    extract? (prose ++ fence ++ info ++ '\n' :: (w ++ object ++ rest)) = some object := by
  obtain ⟨htick, hprose⟩ := hprose
  obtain ⟨hinfo, hline⟩ := hinfo
  have hblank := openBrace_not_mem_blank hw
  have hbefore : '\x7b' ∉ prose ++ fence ++ info ++ '\n' :: w := by
    simp [hprose, hinfo, hblank, fence]
  have hcut := cutAtFence_of_not_mem htick (info ++ '\n' :: (w ++ (object ++ rest)))
  have hinside := balancedObject?_object hblank h rest
  have hreply := balancedObject?_object hbefore h rest
  simp only [List.append_assoc, List.cons_append] at hreply ⊢
  exact extract?_of_found hcut (.lineEnd hline) hinside hreply

/-- An object with one string. -/
def note (s : String) : Json := .object [("note", .string s)]

/-- A note is an object. -/
theorem isObject_note (s : String) : IsObject (note s).compact :=
  ⟨_, spells_compact (note s) ⟨trivial, trivial⟩⟩

theorem extract?_fenced_note :
    extract? ("Here you are:\n".toList ++ fence ++ "json".toList ++
        '\n' :: ("  ".toList ++ (note "\x7d \" \\ \x60\x60\x60 \x7b").compact ++ " (\x7b".toList)) =
      some (note "\x7d \" \\ \x60\x60\x60 \x7b").compact :=
  extract?_fenced ⟨by decide, by decide⟩ ⟨by decide, by decide⟩ rfl (isObject_note _) _

/-! ### Replies that are an object -/

/-- The scenarios of entries; none if there are none of the expected form. -/
def scenariosFrom (entries : Option (List Json)) : List Scenario :=
  match entries.bind (scenarios? 1) with
  | some scenarios => distinctIds scenarios
  | none => []

/-- The scenarios of a reply are those of its entries. -/
theorem parseScenarios_eq (reply : String) :
    parseScenarios reply = scenariosFrom (entries? reply) := rfl

/-- The scenarios that a value lists under `scenarios`. -/
def scenariosIn (value : Option Json) : List Scenario :=
  scenariosFrom ((value.bind (Json.member? "scenarios")).bind Json.items?)

/-- The scenarios of a reply are those that its object lists. -/
theorem parseScenarios_of_extract? {reply : String} (h : extract? reply.toList = some object) :
    parseScenarios reply = scenariosIn (parse? (String.ofList object)) := by
  have hentries : entries? reply =
      ((parse? (String.ofList object)).bind (Json.member? "scenarios")).bind Json.items? := by
    rw [entries?, h, Option.bind_assoc]
    rfl
  rw [parseScenarios_eq, hentries, scenariosIn]

/-- An object is found in itself if no block comes first. -/
theorem extract?_of_isObject (h : IsObject object)
    (hblock : ∀ block, FencedBlock object block → balancedObject? block = none) :
    extract? object = some object := by
  have hfound := balancedObject?_object List.not_mem_nil h []
  rw [List.nil_append, List.append_nil] at hfound
  rw [extract?_of_no_block hblock, hfound]

/-- A text with a fenced block has two fences. -/
theorem FencedBlock.exists_fences (h : FencedBlock cs block) :
    ∃ a b c, cs = a ++ fence ++ b ++ fence ++ c := by
  obtain ⟨before, after, inside, rest, hopen, hline, hclose⟩ := h
  rw [hopen.parts]
  cases hline with
  | @lineEnd line _ _ =>
      rw [hclose.parts]
      exact ⟨before, line ++ '\n' :: block, rest, by simp⟩
  | single _ =>
      rw [hclose.parts]
      exact ⟨before, block, rest, by simp⟩

/-- An object in which no fence occurs is found in itself. -/
theorem extract?_of_not_occursIn (h : IsObject object)
    (hfence : Text.occursIn fence object = false) : extract? object = some object := by
  refine extract?_of_isObject h fun block hblock => ?_
  obtain ⟨a, b, c, hparts⟩ := hblock.exists_fences
  have hoccurs : Text.occursIn fence object = true :=
    Text.occursIn_iff.2 ⟨a, b ++ fence ++ c, by simpa using hparts⟩
  rw [hfence] at hoccurs
  cases hoccurs

/-- **A reply that is an object is read as that object** exactly if no fenced block, whose fences
are then inside of strings, holds braces that are balanced. -/
theorem parseScenarios_object {members : List (Option String × Document)}
    (h : Spells (.object members true) object) :
    (extract? object = some object ↔
        ∀ block, FencedBlock object block → balancedObject? block = none) ∧
      ((∀ a b c, object ≠ a ++ fence ++ b ++ fence ++ c) → extract? object = some object) ∧
      (extract? object = some object →
        parseScenarios (String.ofList object) =
          scenariosIn ((Document.object members true).limited 0).toJson?) := by
  have hobject : IsObject object := ⟨members, h⟩
  refine ⟨⟨fun hwhole block hblock => ?_, extract?_of_isObject hobject⟩, fun hfences => ?_,
    fun hwhole => ?_⟩
  · rw [Option.eq_none_iff_forall_ne_some]
    intro found hfound
    have hpart := extract?_of_block hblock hfound
    rw [hwhole] at hpart
    obtain rfl := Option.some.inj hpart
    have hle := balancedObject?_length_le hfound
    have hlt := hblock.length_lt
    omega
  · refine extract?_of_isObject hobject fun block hblock => ?_
    obtain ⟨a, b, c, hparts⟩ := hblock.exists_fences
    exact absurd hparts (hfences a b c)
  · have hreply : extract? (String.ofList object).toList = some object := by
      rw [String.toList_ofList, hwhole]
    rw [parseScenarios_of_extract? hreply, parse?_of_spellsText h.text]

/-- A list of one scenario with the given name. -/
def listing (name : String) : Json :=
  .object [("scenarios", .array [.object [("name", .string name)]])]

/-- The compact text of the listing spells it. -/
theorem spells_listing (name : String) :
    Spells (.ofJson (listing name)) (listing name).compact :=
  spells_compact (listing name) ⟨⟨⟨trivial, trivial⟩, trivial⟩, trivial⟩

/-- Braces and one fence in a name do no harm, but a pair of fences with braces in between does. -/
theorem parseScenarios_object_listing :
    (extract? (listing "Show \x7b\x7d and \x60\x60\x60").compact =
        some (listing "Show \x7b\x7d and \x60\x60\x60").compact ∧
      parseScenarios (listing "Show \x7b\x7d and \x60\x60\x60").text =
        [.blank "scenario_1" "Show \x7b\x7d and \x60\x60\x60"]) ∧
    extract? (listing "Show \x60\x60\x60\x7b\x7d\x60\x60\x60").compact ≠
      some (listing "Show \x60\x60\x60\x7b\x7d\x60\x60\x60").compact := by
  obtain ⟨hplain, -, hread⟩ :=
    parseScenarios_object (spells_listing "Show \x7b\x7d and \x60\x60\x60")
  obtain ⟨hfenced, -, -⟩ :=
    parseScenarios_object (spells_listing "Show \x60\x60\x60\x7b\x7d\x60\x60\x60")
  have hnone : fencedBlock? (listing "Show \x7b\x7d and \x60\x60\x60").compact = none := by
    decide +kernel
  have hsome : fencedBlock? (listing "Show \x60\x60\x60\x7b\x7d\x60\x60\x60").compact =
      some "\x7b\x7d".toList := by
    decide +kernel
  have hwhole := hplain.2 fun block hblock => by
    rw [fencedBlock?_eq_some_iff.2 hblock] at hnone
    cases hnone
  refine ⟨⟨hwhole, ?_⟩, fun hpart => ?_⟩
  · rw [Json.text, hread hwhole]
    decide +kernel
  · have hblock := hfenced.1 hpart _ (fencedBlock?_eq_some_iff.1 hsome)
    cases hblock

end Scenarist.Reply
