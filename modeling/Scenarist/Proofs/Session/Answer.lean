import Scenarist.Proofs.Json.Printer
import Scenarist.Proofs.Json.Record
import Scenarist.Proofs.Repair.Adoption
import Scenarist.Proofs.Reply.Balance
import Scenarist.Proofs.Session.Request

/-!
# Answers That Say They Failed

A tool may answer with an object in which `success` is false. The object is read as a record with a
few fields, and it is read as a whole or not at all: a member that is none of the fields may have
any value, but one that is must fit, and the selector may go by one of its names only (`Decodable`).
An object that is not read so is no structured answer, whatever it says about success.

So what an object says decides about a step or a check exactly if the object is decodable
(`failed_iff_decodable`). Otherwise the step counts as a success, and so does the check.

## Main results

* `Answer.ofObject?_isSome_iff`: **which objects are answers**.
* `Answer.parse?_object`: a text that is an object is an answer as a whole or not at all.
* `Session.failed_iff_decodable`: **when an answer that says it failed is counted as a failure**.
-/

namespace Scenarist

open Json

/-! ### Which objects are answers -/

namespace Answer

/-- The names of the selector in an answer. -/
def selectorNames : List String :=
  ["improvedSelector", "improved_selector", "locator", "selector"]

/-- The members are **decodable** as an answer: their keys have values, what is said about success
is a flag and what is said about the selector and about the error is a text, if anything, and the
selector goes by one name only. -/
structure Decodable (members : List (Option String × Document)) : Prop where
  keyed : ∀ m ∈ members, m.1 ≠ none
  flag : ∀ m ∈ members, m.1 = some "success" → m.2 = .null ∨ ∃ b, m.2 = .bool b
  texts : ∀ m ∈ members, ∀ name, m.1 = some name → name ∈ "error" :: selectorNames →
    m.2 = .null ∨ ∃ s, m.2 = .string (some s)
  oneSelector : ∀ name ∈ selectorNames, ∀ name' ∈ selectorNames,
    name ∈ Document.keys members → name' ∈ Document.keys members → name = name'

/-- A reading succeeds with another result exactly if it succeeds. -/
theorem isOk_map {α β : Type} (r : Reading α) (f : α → β) : (r.map f).isOk = r.isOk := by
  cases r <;> rfl

/-- The fields of a reply are read independently of each other. -/
theorem shape_independent : shape.Independent := by
  intro f hf d acc acc'
  simp only [shape, List.mem_cons, List.not_mem_nil, or_false] at hf
  rcases hf with rfl | rfl | rfl <;> exact (isOk_map _ _).trans (isOk_map _ _).symm

/-- No field of a reply must be there. -/
theorem shape_presence : ∀ f ∈ shape.fields, f.presence ≠ .required := by
  simp [shape]

/-- The field of a key, with its place among the fields. -/
theorem find?_shape (key : String) : RecordShape.find? key 0 shape.fields =
    if key = "success" then some (0, shape.fields[0])
    else if key ∈ selectorNames then some (1, shape.fields[1])
    else if key = "error" then some (2, shape.fields[2])
    else none := by
  simp only [shape, RecordShape.find?, selectorNames, List.contains_iff_mem, List.mem_singleton]
  rfl

/-- Which field a key belongs to: the improved selector has several names. -/
theorem place?_shape (key : String) : shape.place? key =
    if key = "success" then some 0 else if key ∈ selectorNames then some 1
    else if key = "error" then some 2 else none := by
  rw [RecordShape.place?, find?_shape]
  split
  · rfl
  · split
    · rfl
    · split <;> rfl

/-- **Which members a reply admits**: those of a field are of its kind, and others are well
formed. -/
theorem admits_iff {key : String} {d : Document} : shape.Admits (some key, d) ↔
    if key = "success" then (d.asOption (·.asBool)).isOk = true
    else if key ∈ selectorNames then (d.asOption (·.asText)).isOk = true
    else if key = "error" then (d.asOption (·.asText)).isOk = true
    else d.isWellFormed = true := by
  have hkey : ∀ P : String → Prop, (∃ k, some key = some k ∧ P k) ↔ P key := by simp
  rw [RecordShape.Admits, hkey, find?_shape]
  by_cases hflag : key = "success"
  · simp only [if_pos hflag]
    exact Iff.of_eq (congrArg (· = true) (isOk_map _ _))
  · by_cases hselector : key ∈ selectorNames
    · simp only [if_neg hflag, if_pos hselector]
      exact Iff.of_eq (congrArg (· = true) (isOk_map _ _))
    · by_cases herror : key = "error"
      · simp only [if_neg hflag, if_neg hselector, if_pos herror]
        exact Iff.of_eq (congrArg (· = true) (isOk_map _ _))
      · simp only [if_neg hflag, if_neg hselector, if_neg herror]

variable {members : List (Option String × Document)} {cs : List Char}

/-- What may be a text is null or a complete string, at any depth. -/
theorem fits_text_iff {d : Document} {depth : Nat} :
    ((d.limited depth).asOption (·.asText)).isOk = true ↔
      d = .null ∨ ∃ s, d = .string (some s) := by
  rw [Document.asOption_isOk_iff, Document.asText_isOk_iff, Document.limited_eq_iff (.inl rfl)]
  simp only [Document.limited_eq_iff (.inr (.inr ⟨_, rfl⟩))]

/-- What may be a truth value is null or a truth value, at any depth. -/
theorem fits_flag_iff {d : Document} {depth : Nat} :
    ((d.limited depth).asOption (·.asBool)).isOk = true ↔ d = .null ∨ ∃ b, d = .bool b := by
  rw [Document.asOption_isOk_iff, Document.asBool_isOk_iff, Document.limited_eq_iff (.inl rfl)]
  simp only [Document.limited_eq_iff (.inr (.inl ⟨_, rfl⟩))]

/-- A well-formed member is admitted exactly if it can be decoded. -/
theorem admits_limited_iff {k : Option String} {d : Document} {depth : Nat}
    (hwell : d.isWellFormed = true) : shape.Admits (k, d.limited depth) ↔
      k ≠ none ∧ (k = some "success" → d = .null ∨ ∃ b, d = .bool b) ∧
      ∀ name, k = some name → name ∈ "error" :: selectorNames →
        d = .null ∨ ∃ s, d = .string (some s) := by
  cases k with
  | none => simp [RecordShape.Admits]
  | some key =>
      rw [admits_iff, fits_flag_iff, fits_text_iff, Document.isWellFormed_limited, hwell]
      by_cases hflag : key = "success"
      · subst hflag
        simp [selectorNames]
      · by_cases hselector : key ∈ selectorNames
        · simp [hflag, hselector]
        · by_cases herror : key = "error" <;> simp [hflag, hselector, herror]

/-- Two keys go by one field only if both are names of the selector. -/
theorem place?_eq_place?_iff {k k' : String} (hne : k ≠ k') :
    (∃ i, shape.place? k = some i ∧ shape.place? k' = some i) ↔
      k ∈ selectorNames ∧ k' ∈ selectorNames := by
  have herror : "error" ∉ selectorNames := by decide
  have hflag : "success" ∉ selectorNames := by decide
  rw [place?_shape, place?_shape]
  split_ifs <;> simp_all

/-- The members of an object are read as an answer exactly if they are decodable. -/
theorem readMembers_isOk_iff (depth : Nat) (hwell : Document.membersWellFormed members = true)
    (hkeys : (Document.keys members).Nodup) :
    (shape.readMembers [] shape.blank (Document.limitedMembers depth members)).isOk = true ↔
      Decodable members := by
  have hadmits : (∀ m ∈ Document.limitedMembers depth members, shape.Admits m) ↔
      ∀ m ∈ members, shape.Admits (m.1, m.2.limited depth) := by
    rw [Document.limitedMembers_eq_map, List.forall_mem_map]
  have hplaces : (∀ k ∈ Document.keys members, ∀ k' ∈ Document.keys members, ∀ i,
      shape.place? k = some i → shape.place? k' = some i → k = k') ↔
      ∀ name ∈ selectorNames, ∀ name' ∈ selectorNames,
        name ∈ Document.keys members → name' ∈ Document.keys members → name = name' := by
    constructor
    · intro h name hname name' hname' hmem hmem'
      by_contra hne
      obtain ⟨i, hi, hi'⟩ := (place?_eq_place?_iff hne).2 ⟨hname, hname'⟩
      exact hne (h name hmem name' hmem' i hi hi')
    · intro h k hk k' hk' i hi hi'
      by_contra hne
      obtain ⟨hname, hname'⟩ := (place?_eq_place?_iff hne).1 ⟨i, hi, hi'⟩
      exact hne (h k hname k' hname' hk hk')
  rw [RecordShape.readMembers_isOk_iff shape_independent, hadmits,
    RecordShape.nodup_index?_iff (by simpa), Document.keys_limitedMembers, hplaces]
  constructor
  · rintro ⟨hall, hselector, -⟩
    have hall' := fun m hm =>
      (admits_limited_iff (Document.membersWellFormed_iff.1 hwell m hm)).1 (hall m hm)
    exact ⟨fun m hm => (hall' m hm).1, fun m hm => (hall' m hm).2.1, fun m hm => (hall' m hm).2.2,
      hselector⟩
  · rintro ⟨hkeyed, hflag, htexts, hselector⟩
    refine ⟨fun m hm => ?_, hselector, by simp⟩
    exact (admits_limited_iff (Document.membersWellFormed_iff.1 hwell m hm)).2
      ⟨hkeyed m hm, hflag m hm, htexts m hm⟩

/-- What is read of an object is read of its members. -/
theorem ofObject?_of_spellsText (h : SpellsText (.object members true) cs) :
    ofObject? cs = ((shape.readMembers [] shape.blank
      (Document.limitedMembers 1 members)).map Prod.snd).toOption := by
  have hdocument : (Document.object members true).limited 0 =
      .object (Document.limitedMembers 1 members) true := rfl
  rw [ofObject?, readText, String.toList_ofList, Document.ofText_of_spellsText h, hdocument]
  dsimp only
  rw [RecordShape.read_object shape_presence]
  cases shape.readMembers [] shape.blank (Document.limitedMembers 1 members) <;> rfl

/-- **Which objects are answers**: those that are decodable. -/
theorem ofObject?_isSome_iff (h : SpellsText (.object members true) cs)
    (hkeys : (Document.keys members).Nodup) : (ofObject? cs).isSome = true ↔ Decodable members := by
  rw [ofObject?_of_spellsText h, ← readMembers_isOk_iff 1 h.isWellFormed hkeys]
  cases shape.readMembers [] shape.blank (Document.limitedMembers 1 members) <;>
    simp [Except.map, Except.toOption, Except.isOk, Except.toBool]

/-- The selector and the error are read beside what is said about success. -/
theorem success_of_read {key : String} {j : Nat} {f : Json.Field Answer} {d : Document}
    {a a' : Answer} (hfind : RecordShape.find? key 0 shape.fields = some (j, f)) (hj : j ≠ 0)
    (hread : f.read d a = .ok a') : a'.success = a.success := by
  have hmap {α : Type} {r : Reading α} {g : α → Answer} (h : r.map g = .ok a')
      (hg : ∀ v, (g v).success = a.success) : a'.success = a.success := by
    obtain ⟨v, -, rfl⟩ := map_eq_ok_iff.1 h
    exact hg v
  rw [find?_shape] at hfind
  split at hfind
  · cases hfind
    exact absurd rfl hj
  · split at hfind
    · cases hfind
      exact hmap hread fun _ => rfl
    · split at hfind
      · cases hfind
        exact hmap hread fun _ => rfl
      · cases hfind

/-- What an object says about success is what its answer says. -/
theorem success_of_ofObject? {a : Answer} {b : Bool} (h : SpellsText (.object members true) cs)
    (hmem : (some "success", .bool b) ∈ members) (ha : ofObject? cs = some a) :
    a.success = some b := by
  rw [ofObject?_of_spellsText h] at ha
  cases hread : shape.readMembers [] shape.blank (Document.limitedMembers 1 members) with
  | error e =>
      rw [hread] at ha
      cases ha
  | ok out =>
      rw [hread] at ha
      cases ha
      have hlimited : (some "success", .bool b) ∈ Document.limitedMembers 1 members := by
        rw [Document.limitedMembers_eq_map]
        exact List.mem_map_of_mem hmem
      refine RecordShape.readMembers_brings (P := fun a => a.success = some b) hlimited
        (find?_shape "success") ?_ ?_ hread
      · rintro _ _ ⟨⟩
        rfl
      · intro key j f hfind hj d acc acc' hacc hread
        exact (success_of_read hfind hj hread).trans hacc

/-! ### Texts that are objects -/

/-- The blanks before a text are dropped, up to a part that begins with none. -/
theorem trimStart_append {xs ys : List Char} (h : ∀ c, ys.head? = some c → Text.isBlank c = false) :
    Text.trimStart (xs ++ ys) = Text.trimStart xs ++ ys := by
  rw [Text.trimStart, Text.trimStart, List.dropWhile_append]
  split
  · next hxs =>
    rw [List.isEmpty_iff.1 hxs]
    have hdrop : ([] ++ ys).dropWhile Text.isBlank = ys := Spec.dropWhile_append_of_stop rfl h
    exact hdrop
  · rfl

/-- The same from the other end. -/
theorem trimEnd_append {xs ys : List Char}
    (h : ∀ c, xs.getLast? = some c → Text.isBlank c = false) :
    Text.trimEnd (xs ++ ys) = xs ++ Text.trimEnd ys := by
  have hlast : ∀ c, xs.reverse.head? = some c → Text.isBlank c = false := by
    intro c hc
    rw [List.head?_reverse] at hc
    exact h c hc
  rw [Text.trimEnd, List.reverse_append, trimStart_append hlast, List.reverse_append,
    List.reverse_reverse, Text.trimEnd]

/-- Trimming a text stops at an object in it, from both ends. -/
theorem trim_around_object {before after : List Char} (h : IsObject cs) :
    Text.trim (before ++ (cs ++ after)) = Text.trimStart before ++ (cs ++ Text.trimEnd after) := by
  obtain ⟨inside, rfl, -⟩ := Reply.exists_inside_of_isObject h
  have hlast : ∀ c, (Text.trimStart before ++ '\x7b' :: (inside ++ ['\x7d'])).getLast? = some c →
      Text.isBlank c = false := by
    intro c hc
    rw [← List.cons_append, ← List.append_assoc, List.getLast?_concat] at hc
    cases hc
    rfl
  rw [Text.trim, trimStart_append (by rintro _ ⟨⟩; rfl), ← List.append_assoc, trimEnd_append hlast,
    List.append_assoc]

/-- Nothing is left of a text without the blanks in front exactly if it is blank. -/
theorem trimStart_eq_nil_iff : Text.trimStart cs = [] ↔ Text.isAllBlank cs = true := by
  rw [Text.trimStart, List.dropWhile_eq_nil_iff, Text.isAllBlank, List.all_eq_true]

/-- Nothing is left of a text without the blanks at its end exactly if it is blank. -/
theorem trimEnd_eq_nil_iff : Text.trimEnd cs = [] ↔ Text.isAllBlank cs = true := by
  rw [Text.trimEnd, List.reverse_eq_nil_iff, trimStart_eq_nil_iff, Text.isAllBlank,
    List.all_reverse, Text.isAllBlank]

/-- What is a blank around the values of a text is a blank at its ends. -/
theorem isAllBlank_of_blanks (h : Blanks cs) : Text.isAllBlank cs = true := by
  refine List.all_eq_true.2 fun c hc => ?_
  have hspace : isSpace c = true := List.all_eq_true.1 h c hc
  simp only [isSpace, Bool.or_eq_true, beq_iff_eq] at hspace
  rcases hspace with ((rfl | rfl) | rfl) | rfl <;> rfl

/-- An object with nothing but blanks around it is an answer as a whole or not at all. -/
theorem parse?_of_blank {before after : List Char} (hbefore : Text.isAllBlank before = true)
    (hafter : Text.isAllBlank after = true) (h : IsObject cs) :
    parse? (String.ofList (before ++ (cs ++ after))) = ofObject? cs := by
  rw [parse?, String.toList_ofList, trim_around_object h, trimStart_eq_nil_iff.2 hbefore,
    trimEnd_eq_nil_iff.2 hafter, List.nil_append, List.append_nil]
  obtain ⟨inside, rfl, -⟩ := Reply.exists_inside_of_isObject h
  rfl

/-- A text that is an object is an answer as a whole or not at all. -/
theorem parse?_object {text : String} (h : SpellsText (.object members true) text.toList) :
    parse? text = ofObject? text.toList := by
  obtain ⟨cs, rfl⟩ : ∃ cs, String.ofList cs = text := ⟨text.toList, String.ofList_toList⟩
  rw [String.toList_ofList] at h ⊢
  rw [ofObject?_of_spellsText h]
  cases h with
  | mk hbefore hobject hafter =>
      rw [parse?_of_blank (isAllBlank_of_blanks hbefore) (isAllBlank_of_blanks hafter)
        ⟨_, hobject⟩, ofObject?_of_spellsText hobject.text]

end Answer

/-! ### Calls that are answered -/

namespace Session

variable {σ : Type} {b : Backend σ} {d : Option Nat} {w : World σ}

/-- The call of a tool **is answered** with the reply, while the session is connected and before
the deadline. -/
structure Replies (b : Backend σ) (d : Option Nat) (w : World σ) (tool : String) (arguments : Json)
    (reply : ToolReply) : Prop where
  connected : w.state = .connected
  answered : ∃ delay,
    (b.call w.backend tool arguments).2 = .after delay (.answered (.ok reply)) ∧
      ∀ m, d = some m → w.now + delay ≤ m

variable {tools : Toolbox} {reply : ToolReply}

/-- Where a tool replies, the call gives the reply. -/
theorem call_of_replies {tool : String} {arguments : Json}
    (h : Replies b d w tool arguments reply) :
    ∃ w', call b tool arguments d w = (.ok (.ok (.ok reply)), w') := by
  obtain ⟨hconnected, delay, hanswer, hdue⟩ := h
  obtain ⟨w', hask⟩ : ∃ w', Play.ask (b.call · tool arguments) (.call · tool arguments ·) d w =
      (.ok (.answered (.ok reply)), w') :=
    ⟨_, Play.ask_eq_ok_iff.2 ⟨_, delay, Prod.ext rfl hanswer, hdue, rfl⟩⟩
  rw [call_of_connected b d hconnected, Play.bind_of_ok hask]
  exact ⟨_, rfl⟩

/-- What the tool for a step is asked, if there is one, **is answered** with the reply. -/
def StepReplies (b : Backend σ) (tools : Toolbox) (d : Option Nat) (w : World σ) (action : Action)
    (target : String) (data : Option String) (reply : ToolReply) : Prop :=
  ∀ tool, tools.forAction? action = some tool →
    Replies b d w tool.name (Template.render target data tool.arguments) reply

/-- What the tool for checks is asked **is answered** with the reply. -/
def CheckReplies (b : Backend σ) (tools : Toolbox) (d : Option Nat) (w : World σ)
    (target : String) (reply : ToolReply) : Prop :=
  Replies b d w tools.validateSelector.name
    (Template.render target none tools.validateSelector.arguments) reply

/-- What a reply makes of a step; without a tool for it, nothing does. -/
def stepMeaning (action : Action) (target : String) (reply : ToolReply) : StepResult :=
  if action.isRecognized then stepResult action target (.ok reply)
  else .failed ("unsupported action: " ++ action.name)

/-- **An answered step** has the result that the reply makes of it. -/
theorem executeStep_of_replies {action : Action} {target : String} {data : Option String}
    (h : StepReplies b tools d w action target data reply) :
    ∃ time w', executeStep b tools action target data d w =
      (.ok (.ok { stepMeaning action target reply with executionTimeMs := time }), w') := by
  rw [stepMeaning]
  cases htool : tools.forAction? action with
  | none =>
      have hunrecognized := isRecognized_of_forAction?_eq_none htool
      rw [hunrecognized, executeStep_of_unrecognized b d hunrecognized target data]
      exact ⟨none, w, rfl⟩
  | some tool =>
      obtain ⟨w', hcall⟩ := call_of_replies (h tool htool)
      rw [isRecognized_of_forAction? htool, if_pos rfl]
      simp only [executeStep, htool, Play.look_bind]
      rw [Play.bind_of_ok hcall]
      exact ⟨_, _, rfl⟩

/-- **An answered check** has the result that the reply makes of it. -/
theorem validateSelector_of_replies {target : String}
    (h : CheckReplies b tools d w target reply) :
    ∃ w', validateSelector b tools target d w =
      (.ok (.ok (validation target (.ok reply))), w') := by
  obtain ⟨w', hcall⟩ := call_of_replies h
  rw [validateSelector, Play.bind_of_ok hcall]
  exact ⟨w', rfl⟩

/-- A connected session whose next call is answered with the text. -/
def awaiting (text : String) : World (List (Timed CallEnd)) :=
  ⟨[.after 1 (.answered (.ok ⟨false, text⟩))], .connected, true, 0, []⟩

/-- The backend in waiting replies with the text. -/
theorem replies_awaiting (text tool : String) (arguments : Json) :
    Replies .playback none (awaiting text) tool arguments ⟨false, text⟩ :=
  ⟨rfl, 1, rfl, by rintro _ ⟨⟩⟩

/-! ### Answers that say they failed -/

/-- An object that says it failed is taken for a failure exactly if it is decodable. -/
theorem confirms_object_iff {members : List (Option String × Document)} {text : String}
    (htext : SpellsText (.object members true) text.toList)
    (hkeys : (Document.keys members).Nodup) (hfalse : (some "success", .bool false) ∈ members) :
    Repair.Confirms (.ok ⟨false, text⟩) ↔ ¬ Answer.Decodable members := by
  rw [← Answer.ofObject?_isSome_iff htext hkeys, ← Answer.parse?_object htext]
  cases hanswer : Answer.parse? text with
  | none => simp [Repair.Confirms, hanswer]
  | some a =>
      have hfailed : a.success = some false := by
        rw [Answer.parse?_object htext] at hanswer
        exact Answer.success_of_ofObject? htext hfalse hanswer
      simp [Repair.Confirms, hanswer, hfailed]

/-- A check that does not succeed suggests nothing. -/
theorem improvedSelector_of_failed {target : String} {answer : Except Failure ToolReply}
    (h : (validation target answer).success = false) :
    (validation target answer).improvedSelector = none := by
  rcases answer with e | reply
  · rfl
  · simp only [validation] at h ⊢
    split
    · rfl
    · next hflag =>
      rw [if_neg hflag] at h
      split
      · split
        · rfl
        · next hsuccess => simp_all
      · simp_all

/-- **When an answer that says it failed is counted as a failure.** A tool answers a step or a check
with an object in which `success` is false. The step fails, and so does the check, without a
suggestion, exactly if the object is decodable; a step whose action is not recognized fails in any
case, as nothing is asked for it. -/
theorem failed_iff_decodable {members : List (Option String × Document)} {text : String}
    (htext : SpellsText (.object members true) text.toList)
    (hkeys : (Document.keys members).Nodup) (hfalse : (some "success", .bool false) ∈ members)
    (b : Backend σ) (tools : Toolbox) (d : Option Nat) (w : World σ) (target : String) :
    (∀ (action : Action) (data : Option String),
      StepReplies b tools d w action target data ⟨false, text⟩ →
      ∃ r w', executeStep b tools action target data d w = (.ok (.ok r), w') ∧
        (r.success = false ↔ action.isRecognized = false ∨ Answer.Decodable members)) ∧
    (CheckReplies b tools d w target ⟨false, text⟩ →
      ∃ v w', validateSelector b tools target d w = (.ok (.ok v), w') ∧
        (v.success = false ↔ Answer.Decodable members) ∧
        (v.success = false → v.improvedSelector = none)) := by
  have hconfirms := confirms_object_iff htext hkeys hfalse
  constructor
  · intro action data hreplies
    obtain ⟨time, w', hrun⟩ := executeStep_of_replies hreplies
    refine ⟨_, w', hrun, ?_⟩
    dsimp only [stepMeaning]
    cases action.isRecognized with
    | false => exact iff_of_true rfl (.inl rfl)
    | true =>
        rw [if_pos rfl, ← Bool.not_eq_true, Repair.stepResult_success_iff, hconfirms]
        simp
  · intro hreplies
    obtain ⟨w', hrun⟩ := validateSelector_of_replies hreplies
    refine ⟨_, w', hrun, ?_, improvedSelector_of_failed⟩
    rw [← Bool.not_eq_true, Repair.validation_success_iff, hconfirms, not_not]

/-- An answer that says it failed, and why. -/
def refusal (error : Json) : Json := .object [("success", .bool false), ("error", error)]

/-- A click is refused for a reason in words, and is a failure; it is refused for a reason with a
code, and is a success, and so is a check. -/
theorem failed_iff_decodable_refusal :
    (∃ r w', executeStep .playback .bySelector .click "#a" none none
        (awaiting (refusal (.string "no element")).text) = (.ok (.ok r), w') ∧
      r.success = false) ∧
    (∃ r w', executeStep .playback .bySelector .click "#a" none none
        (awaiting (refusal (.object [("code", .string "E7")])).text) = (.ok (.ok r), w') ∧
      r.success = true) ∧
    ∃ v w', validateSelector .playback .bySelector "#a" none
        (awaiting (refusal (.object [("code", .string "E7")])).text) = (.ok (.ok v), w') ∧
      v.success = true := by
  have hspells (error : Json) (herror : Legible error) :
      SpellsText
        (.object (Document.ofJsonMembers [("success", .bool false), ("error", error)]) true)
        (refusal error).text.toList := by
    rw [Json.text, String.toList_ofList]
    exact (spells_compact (refusal error) ⟨trivial, herror, trivial⟩).text
  have hwords := failed_iff_decodable (hspells (.string "no element") trivial) (by decide)
    (by simp [Document.ofJsonMembers, Document.ofJson]) .playback .bySelector none
    (awaiting (refusal (.string "no element")).text) "#a"
  have hcode := failed_iff_decodable (hspells (.object [("code", .string "E7")]) ⟨trivial, trivial⟩)
    (by decide) (by simp [Document.ofJsonMembers, Document.ofJson]) .playback .bySelector none
    (awaiting (refusal (.object [("code", .string "E7")])).text) "#a"
  have hdecodable : Answer.Decodable
      (Document.ofJsonMembers [("success", .bool false), ("error", .string "no element")]) := by
    constructor <;> simp [Document.ofJsonMembers, Document.ofJson, Answer.selectorNames,
      Document.keys]
  have hundecodable : ¬ Answer.Decodable (Document.ofJsonMembers
      [("success", .bool false), ("error", .object [("code", .string "E7")])]) := by
    intro h
    have herror := h.texts (some "error", .ofJson (.object [("code", .string "E7")]))
      (by simp [Document.ofJsonMembers]) "error" rfl (by simp)
    simp [Document.ofJson] at herror
  refine ⟨?_, ?_, ?_⟩
  · obtain ⟨r, w', hrun, hr⟩ := hwords.1 .click none fun _ _ => replies_awaiting _ _ _
    exact ⟨r, w', hrun, hr.2 (.inr hdecodable)⟩
  · obtain ⟨r, w', hrun, hr⟩ := hcode.1 .click none fun _ _ => replies_awaiting _ _ _
    refine ⟨r, w', hrun, ?_⟩
    rw [← Bool.not_eq_false, hr]
    simp [hundecodable, Action.isRecognized]
  · obtain ⟨v, w', hrun, hv, -⟩ := hcode.2 (replies_awaiting _ _ _)
    refine ⟨v, w', hrun, ?_⟩
    rw [← Bool.not_eq_false, hv]
    exact hundecodable

end Session

end Scenarist
