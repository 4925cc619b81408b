import Mathlib.Algebra.Order.BigOperators.Group.List
import Mathlib.Algebra.Order.Group.Nat
import Mathlib.Data.List.Basic
import Mathlib.Tactic.ByContra
import Scenarist.Channel.Message
import Scenarist.Session.Template
import Scenarist.Settings.Tools

/-!
# What Is Shown of a Call

Of an outgoing message the values of the arguments of a tool are not shown, for they carry the data
of a step. This module compares what is shown of two calls of one tool that differ in nothing but
the target and the data with which its template was filled in.

Filling in a template changes no key, and it does not matter whether members are sorted before or
after it (`canonical_render`). So nothing of the target or the data is shown where the template is
an object. Any other template is shown as it was filled in, and then it gives the step away exactly
if it `Mentions` it: a string in it holds a token, or is the mark of a list.

## Main results

* `render_eq_of_not_mentions`, `render_ne_of_mentions`: a template that does not mention the step is
  filled in with the same result for every step, and only such a template is.
* `redacted_call`: what is shown of a call.
* `redacted_call_iff`: **the step is not shown, exactly if** the template is an object or does not
  mention it.
-/

namespace Scenarist.Template

open Json

/-! ### Templates that mention the step -/

/-- A string of a template **mentions** the step: it is the mark of a list, or holds a token. -/
def StringMentions (s : String) : Prop := s = valuesMark ∨ ∃ t, .token t ∈ pieces s

mutual

/-- A template **mentions** the step: one of its strings does. -/
def Mentions : Json → Prop
  | .string s => StringMentions s
  | .array items => ItemsMention items
  | .object members => MembersMention members
  | _ => False

/-- Some item mentions the step. -/
def ItemsMention : List Json → Prop
  | [] => False
  | v :: vs => Mentions v ∨ ItemsMention vs

/-- The value of some member mentions the step. -/
def MembersMention : List (String × Json) → Prop
  | [] => False
  | (_, v) :: ms => Mentions v ∨ MembersMention ms

end

section

variable (target target' : String) (data data' : Option String)

/-- Without a token a string is filled in the same way for every step. -/
theorem fill_eq_of_not_mentions {s : String} (h : ¬ StringMentions s) :
    fill target data s = fill target' data' s := by
  rw [fill, fill]
  congr 1
  refine List.flatMap_congr fun p hp => ?_
  cases p with
  | plain c => rfl
  | token t => exact absurd (.inr ⟨t, hp⟩) h

mutual

/-- **A template that does not mention the step** is filled in the same way for every step. -/
theorem render_eq_of_not_mentions (v : Json) (h : ¬ Mentions v) :
    render target data v = render target' data' v := by
  match v with
  | .null | .bool _ | .number _ => rfl
  | .string s =>
      have hmark : s ≠ valuesMark := fun hs => h (.inl hs)
      rw [render, render, if_neg hmark, if_neg hmark,
        fill_eq_of_not_mentions target target' data data' h]
  | .array items =>
      rw [render, render, renderItems_eq_of_not_mention items h]
  | .object members =>
      rw [render, render, renderMembers_eq_of_not_mention members h]

/-- Items that do not mention the step are filled alike for all steps. -/
theorem renderItems_eq_of_not_mention (items : List Json) (h : ¬ ItemsMention items) :
    renderItems target data items = renderItems target' data' items := by
  match items with
  | [] => rfl
  | v :: vs =>
      rw [ItemsMention, not_or] at h
      rw [renderItems, renderItems, render_eq_of_not_mentions v h.1,
        renderItems_eq_of_not_mention vs h.2]

/-- Members that do not mention the step are filled alike for all steps. -/
theorem renderMembers_eq_of_not_mention (members : List (String × Json))
    (h : ¬ MembersMention members) :
    renderMembers target data members = renderMembers target' data' members := by
  match members with
  | [] => rfl
  | (k, v) :: ms =>
      rw [MembersMention, not_or] at h
      rw [renderMembers, renderMembers, render_eq_of_not_mentions v h.1,
        renderMembers_eq_of_not_mention ms h.2]

end

end

/-- A token stands for more in a step with a target and data than in one without. -/
theorem value_length_lt (t : Token) :
    (t.value "" none).length < (t.value "x" (some "x")).length := by
  cases t <;> decide

/-- A string with a token gets longer. -/
theorem fill_ne_of_token {s : String} {t : Token} (h : .token t ∈ pieces s) :
    fill "" none s ≠ fill "x" (some "x") s := by
  have hle : ∀ p : Piece, (p.value "" none).length ≤ (p.value "x" (some "x")).length := by
    intro p
    cases p with
    | plain c => exact le_rfl
    | token t => exact (value_length_lt t).le
  intro heq
  have hlength := congrArg List.length (String.ofList_injective heq)
  rw [List.length_flatMap, List.length_flatMap] at hlength
  refine absurd hlength (Nat.ne_of_lt ?_)
  exact List.sum_lt_sum _ _ (fun p _ => hle p) ⟨_, h, value_length_lt t⟩

mutual

/-- **A template that mentions the step** is not filled in the same way for every step. -/
theorem render_ne_of_mentions (v : Json) (h : Mentions v) :
    render "" none v ≠ render "x" (some "x") v := by
  match v with
  | .null | .bool _ | .number _ => exact h.elim
  | .string s =>
      rw [render, render]
      by_cases hmark : s = valuesMark
      · rw [if_pos hmark, if_pos hmark]
        simp
      · obtain ⟨t, ht⟩ := h.resolve_left hmark
        rw [if_neg hmark, if_neg hmark]
        exact fun heq => fill_ne_of_token ht (Json.string.inj heq)
  | .array items =>
      rw [render, render]
      exact fun heq => renderItems_ne_of_mention items h (Json.array.inj heq)
  | .object members =>
      rw [render, render]
      exact fun heq => renderMembers_ne_of_mention members h (Json.object.inj heq)

/-- Items that mention the step are filled differently for these two steps. -/
theorem renderItems_ne_of_mention (items : List Json) (h : ItemsMention items) :
    renderItems "" none items ≠ renderItems "x" (some "x") items := by
  match items with
  | v :: vs =>
      rw [renderItems, renderItems]
      intro heq
      obtain ⟨hv, hvs⟩ := List.cons.inj heq
      rcases h with h | h
      · exact render_ne_of_mentions v h hv
      · exact renderItems_ne_of_mention vs h hvs

/-- Members that mention the step are filled differently for these two steps. -/
theorem renderMembers_ne_of_mention (members : List (String × Json))
    (h : MembersMention members) :
    renderMembers "" none members ≠ renderMembers "x" (some "x") members := by
  match members with
  | (k, v) :: ms =>
      rw [renderMembers, renderMembers]
      intro heq
      obtain ⟨hv, hvs⟩ := List.cons.inj heq
      rcases h with h | h
      · exact render_ne_of_mentions v h (Prod.mk.inj hv).2
      · exact renderMembers_ne_of_mention ms h hvs

end

/-! ### Filling in and sorting -/

section

variable (target : String) (data : Option String)

/-- Filling in changes no key. -/
theorem renderMembers_eq_map (members : List (String × Json)) :
    renderMembers target data members = members.map fun (k, v) => (k, render target data v) := by
  induction members with
  | nil => rfl
  | cons m ms ih =>
      obtain ⟨k, v⟩ := m
      rw [renderMembers, ih, List.map_cons]

/-- A member is inserted in the same place whether it is filled before or after: keys are left
alone. -/
theorem renderMembers_insertMember (key : String) (v : Json) (members : List (String × Json)) :
    renderMembers target data (insertMember key v members) =
      insertMember key (render target data v) (renderMembers target data members) := by
  induction members with
  | nil => rfl
  | cons m ms ih =>
      obtain ⟨k, u⟩ := m
      rw [renderMembers, insertMember, insertMember]
      split
      · rfl
      · split
        · rfl
        · rw [renderMembers, ih]

mutual

/-- **It does not matter whether members are sorted** before or after a template is filled in. -/
theorem canonical_render (v : Json) :
    (render target data v).canonical = render target data v.canonical := by
  match v with
  | .null | .bool _ => rfl
  | .number (.natural _) | .number (.negative _) => rfl
  | .number (.float x) =>
      change canonical (.number (.float x)) = render target data (canonical (.number (.float x)))
      rw [canonical]
      split <;> rfl
  | .number (.single x) =>
      change canonical (.number (.single x)) = render target data (canonical (.number (.single x)))
      rw [canonical]
      split <;> rfl
  | .string s =>
      change (render target data (.string s)).canonical = render target data (.string s)
      rw [render]
      split
      · cases data <;> rfl
      · rfl
  | .array items =>
      rw [render, canonical, canonicalItems_renderItems items]
      rfl
  | .object members =>
      have hmembers := canonicalMembers_renderMembers [] members
      rw [renderMembers] at hmembers
      rw [render, canonical, hmembers]
      rfl

/-- The canonical form of items that are filled is that of the items, filled. -/
theorem canonicalItems_renderItems (items : List Json) :
    canonicalItems (renderItems target data items) =
      renderItems target data (canonicalItems items) := by
  match items with
  | [] => rfl
  | v :: vs =>
      rw [renderItems, canonicalItems, canonical_render v, canonicalItems_renderItems vs]
      rfl

/-- The canonical form of members that are filled is that of the members, filled. -/
theorem canonicalMembers_renderMembers (sorted members : List (String × Json)) :
    canonicalMembers (renderMembers target data sorted) (renderMembers target data members) =
      renderMembers target data (canonicalMembers sorted members) := by
  match members with
  | [] => rfl
  | (k, v) :: ms =>
      rw [renderMembers, canonicalMembers, canonical_render v, ← renderMembers_insertMember,
        canonicalMembers_renderMembers (insertMember k v.canonical sorted) ms]
      rfl

end

end

end Scenarist.Template

namespace Scenarist.Channel

/-- The message that calls a tool for a step, its template filled in with the target and the data
of the step. -/
def toolCall (id : Nat) (tool : Tool) (target : String) (data : Option String) : Json :=
  request id "tools/call" (callParams tool.name (Template.render target data tool.arguments))

/-- The template is an object. -/
def IsObject : Json → Prop
  | .object _ => True
  | _ => False

/-- What is shown of the arguments of a tool does not depend on the step if the template is an
object. -/
theorem redactedObject_render_of_isObject {v : Json} (h : IsObject v) (target target' : String)
    (data data' : Option String) :
    redactedObject (Template.render target data v) =
      redactedObject (Template.render target' data' v) := by
  cases v with
  | object members =>
      rw [Template.render, Template.render, redactedObject, redactedObject,
        Template.renderMembers_eq_map, Template.renderMembers_eq_map, List.map_map, List.map_map]
      rfl
  | _ => exact h.elim

/-- Any other template is shown as it was filled in. -/
theorem redactedObject_render_of_not_isObject {v : Json} (h : ¬ IsObject v) (target : String)
    (data : Option String) :
    redactedObject (Template.render target data v) = Template.render target data v := by
  cases v with
  | object members => exact absurd trivial h
  | string s =>
      rw [Template.render]
      split <;> rfl
  | _ => rfl

/-- The canonical form of a value is an object exactly if the value is one. -/
theorem isObject_canonical_iff (v : Json) : IsObject v.canonical ↔ IsObject v := by
  cases v with
  | number n =>
      cases n with
      | float x | single x =>
          rw [Json.canonical]
          split <;> exact Iff.rfl
      | _ => exact Iff.rfl
  | _ => exact Iff.rfl

/-- **What is shown of a call**: everything but the arguments, and of these what is shown of an
object, if they are one. -/
theorem redacted_call (id : Nat) (tool : Tool) (target : String) (data : Option String) :
    redacted (toolCall id tool target data) = .object [
      ("id", .nat id),
      ("jsonrpc", .string "2.0"),
      ("method", .string "tools/call"),
      ("params", .object [
        ("arguments", redactedObject (Template.render target data tool.arguments.canonical)),
        ("name", .string tool.name)])] := by
  rw [← Template.canonical_render]
  rfl

/-- **The step is not shown, exactly if** the template of the tool is an object or does not mention
the step: then, and only then, the same is shown of the calls for any two steps. -/
theorem redacted_call_iff (id : Nat) (tool : Tool) :
    (∀ target data target' data',
      redacted (toolCall id tool target data) = redacted (toolCall id tool target' data')) ↔
    IsObject tool.arguments ∨ ¬ Template.Mentions tool.arguments.canonical := by
  simp only [redacted_call, Json.object.injEq, List.cons.injEq, Prod.mk.injEq, true_and, and_true]
  constructor
  · intro hsame
    by_contra hnot
    obtain ⟨hobject, hmentions⟩ := not_or.1 hnot
    rw [← isObject_canonical_iff] at hobject
    refine Template.render_ne_of_mentions _ (not_not.1 hmentions) ?_
    have heq := hsame "" none "x" (some "x")
    rwa [redactedObject_render_of_not_isObject hobject,
      redactedObject_render_of_not_isObject hobject] at heq
  · rintro (hobject | hmentions) target data target' data'
    · exact redactedObject_render_of_isObject ((isObject_canonical_iff _).2 hobject) _ _ _ _
    · rw [Template.render_eq_of_not_mentions target target' data data' _ hmentions]

/-- A template that is a list shows its item. -/
example : redacted (toolCall 1 ⟨"type", .array [.string "\x7bdata\x7d"]⟩ "#user" (some "hunter2")) =
    .object [
      ("id", .nat 1),
      ("jsonrpc", .string "2.0"),
      ("method", .string "tools/call"),
      ("params", .object [("arguments", .array [.string "hunter2"]), ("name", .string "type")])] :=
  rfl

end Scenarist.Channel
