import Scenarist.Proofs.Json.Rest
import Scenarist.Proofs.Repair.Independence
import Scenarist.Proofs.Session.Answer

/-!
# Answers in Surrounding Text

The object that answers a call may stand in other text. Text before it with anything but blanks in
it makes the reader look for the object, and it is found whole; but a text that begins with the
object is read as that object only if nothing but blanks stands behind it. So the object means the
same alone and in surrounding text except where text follows it and none stands before it
(`meansTheSame_iff`), and there it is no structured answer at all.

That two texts mean the same is said of the results of steps and checks, in any two sessions with
any backends (`MeansTheSame`), and comes down to what is made of the two texts.

## Main results

* `Answer.parse?_around`: what is read of an object in surrounding text.
* `Session.meansTheSame_iff`: **when an embedded answer means the same as the answer alone**.
-/

namespace Scenarist

open Json

namespace Answer

variable {members : List (Option String × Document)} {object : List Char}

theorem isAllBlank_append {xs ys : List Char} :
    Text.isAllBlank (xs ++ ys) = (Text.isAllBlank xs && Text.isAllBlank ys) := by
  rw [Text.isAllBlank, List.all_append]
  rfl

/-- An object with something behind it is no answer by itself. -/
theorem ofObject?_append {after : List Char} (h : Spells (.object members true) object)
    (hafter : Text.isAllBlank after = false) : ofObject? (object ++ after) = none := by
  have hspace : after.all isSpace = false := by
    rw [← Bool.not_eq_true]
    intro hblanks
    rw [isAllBlank_of_blanks hblanks] at hafter
    cases hafter
  rw [ofObject?, readText, String.toList_ofList, Document.ofText_object_append h, hspace]
  dsimp only
  cases shape.read .text ((Document.object members true).limited 0) <;> rfl

/-- Without the blanks before it, a text is blank if it was. -/
theorem isAllBlank_trimStart (cs : List Char) :
    Text.isAllBlank (Text.trimStart cs) = Text.isAllBlank cs := by
  have hdropped : Text.isAllBlank (cs.takeWhile Text.isBlank) = true := List.all_takeWhile
  calc Text.isAllBlank (Text.trimStart cs)
      _ = Text.isAllBlank (cs.takeWhile Text.isBlank ++ Text.trimStart cs) := by
        rw [isAllBlank_append, hdropped, Bool.true_and]
      _ = Text.isAllBlank cs := by rw [Text.trimStart, List.takeWhile_append_dropWhile]

theorem isAllBlank_trimEnd (cs : List Char) :
    Text.isAllBlank (Text.trimEnd cs) = Text.isAllBlank cs := by
  have hreverse := isAllBlank_trimStart cs.reverse
  rw [Text.isAllBlank, Text.isAllBlank, List.all_reverse] at hreverse
  rw [Text.isAllBlank, Text.trimEnd, List.all_reverse, hreverse, Text.isAllBlank]

theorem trim_eq_nil_iff {cs : List Char} : Text.trim cs = [] ↔ Text.isAllBlank cs = true := by
  rw [Text.trim, trimEnd_eq_nil_iff, isAllBlank_trimStart]

/-- **What is read of an object in surrounding text**: the object, wherever it stands, unless text
follows it and none stands before it. -/
theorem parse?_around {before after : List Char} (hbefore : '\x7b' ∉ before)
    (h : Spells (.object members true) object) :
    parse? (String.ofList (before ++ (object ++ after))) =
      if Text.isAllBlank before then
        if Text.isAllBlank after then ofObject? object else none
      else (ofObject? object).filter (·.isTelling) := by
  have hobject : IsObject object := ⟨members, h⟩
  obtain ⟨inside, hinside, -⟩ := Reply.exists_inside_of_isObject hobject
  cases hblank : Text.isAllBlank before with
  | true =>
      rw [if_pos rfl]
      cases hafter : Text.isAllBlank after with
      | true => exact parse?_of_blank hblank hafter hobject
      | false =>
          have hread := ofObject?_append h ((isAllBlank_trimEnd after).trans hafter)
          rw [parse?, String.toList_ofList, trim_around_object hobject,
            trimStart_eq_nil_iff.2 hblank, List.nil_append]
          rw [hinside] at hread ⊢
          exact hread
  | false =>
      have hnone : '\x7b' ∉ Text.trimStart before :=
        fun hmem => hbefore ((List.dropWhile_sublist _).mem hmem)
      have hfound : Reply.balancedObject?
          (Text.trimStart before ++ (object ++ Text.trimEnd after)) = some object :=
        Reply.balancedObject?_object hnone hobject _
      have hne : Text.trimStart before ≠ [] := by
        rw [Ne, trimStart_eq_nil_iff, hblank]
        exact Bool.false_ne_true
      rw [parse?, String.toList_ofList, trim_around_object hobject, if_neg Bool.false_ne_true]
      split
      · next rest hbrace =>
        obtain ⟨c, cs, hcs⟩ := List.exists_cons_of_ne_nil hne
        rw [hcs] at hbrace hnone
        cases hbrace
        exact absurd List.mem_cons_self hnone
      · rw [hfound, Option.bind_some]
        cases ofObject? object with
        | none => rfl
        | some a =>
            rw [Option.filter_some]

/-- The same with blanks between the object and the text around it. -/
theorem parse?_around_text {before : List Char} (hbefore : '\x7b' ∉ before)
    (h : SpellsText (.object members true) object) (after : List Char) :
    parse? (String.ofList (before ++ (object ++ after))) =
      if Text.isAllBlank before then
        if Text.isAllBlank after then ofObject? object else none
      else (ofObject? object).filter (·.isTelling) := by
  rw [ofObject?_of_spellsText h]
  cases h with
  | @mk _ w cs u hw hcs hu =>
      have hbrace : '\x7b' ∉ before ++ w := by
        rw [List.mem_append, not_or]
        exact ⟨hbefore, fun hmem => absurd (List.all_eq_true.1 hw _ hmem) (by decide)⟩
      have htext : before ++ (w ++ (cs ++ u) ++ after) = (before ++ w) ++ (cs ++ (u ++ after)) := by
        simp
      rw [htext, parse?_around hbrace hcs, isAllBlank_append, isAllBlank_append,
        isAllBlank_of_blanks hw, isAllBlank_of_blanks hu, Bool.and_true, Bool.true_and,
        ofObject?_of_spellsText hcs.text]

/-- An object is not blank. -/
theorem exists_not_isBlank (h : SpellsText (.object members true) object) :
    ∃ c ∈ object, Text.isBlank c = false := by
  cases h with
  | @mk _ w cs u hw hcs hu =>
      obtain ⟨inside, rfl, -⟩ := Reply.exists_inside_of_isObject ⟨_, hcs⟩
      exact ⟨'\x7b', by simp, rfl⟩

end Answer

namespace Session

/-- Two texts **mean the same** to a session: whichever step or check is answered with them, the
results are the same, up to the time that a step took. -/
structure MeansTheSame (text text' : String) : Prop where
  step : ∀ {σ : Type} (b b' : Backend σ) (tools : Toolbox) (d d' : Option Nat) (w w' : World σ)
    (action : Action) (target : String) (data : Option String),
    StepReplies b tools d w action target data ⟨false, text⟩ →
    StepReplies b' tools d' w' action target data ⟨false, text'⟩ →
    ∃ r r' u u', executeStep b tools action target data d w = (.ok (.ok r), u) ∧
      executeStep b' tools action target data d' w' = (.ok (.ok r'), u') ∧ r.untimed = r'.untimed
  check : ∀ {σ : Type} (b b' : Backend σ) (tools : Toolbox) (d d' : Option Nat) (w w' : World σ)
    (target : String), CheckReplies b tools d w target ⟨false, text⟩ →
    CheckReplies b' tools d' w' target ⟨false, text'⟩ →
    ∃ v u u', validateSelector b tools target d w = (.ok (.ok v), u) ∧
      validateSelector b' tools target d' w' = (.ok (.ok v), u')

theorem stepMeaning_untimed (action : Action) (target : String) (reply : ToolReply) :
    (stepMeaning action target reply).untimed = stepMeaning action target reply := by
  rw [stepMeaning]
  split
  · exact stepResult_untimed _ _ _
  · rfl

/-- Texts mean the same exactly if the same is made of them. -/
theorem meansTheSame_iff_results {text text' : String} : MeansTheSame text text' ↔
    (∀ action target, stepMeaning action target ⟨false, text⟩ =
      stepMeaning action target ⟨false, text'⟩) ∧
    ∀ target, validation target (.ok ⟨false, text⟩) = validation target (.ok ⟨false, text'⟩) := by
  constructor
  · intro h
    refine ⟨fun action target => ?_, fun target => ?_⟩
    · have hreplies (text : String) : StepReplies .playback .bySelector none (awaiting text) action
          target none ⟨false, text⟩ := fun _ _ => replies_awaiting _ _ _
      obtain ⟨time, w, hrun⟩ := executeStep_of_replies (hreplies text)
      obtain ⟨time', w', hrun'⟩ := executeStep_of_replies (hreplies text')
      obtain ⟨r, r', u, u', hr, hr', hsame⟩ := h.step _ _ _ _ _ _ _ _ _ _ (hreplies text)
        (hreplies text')
      rw [hrun] at hr
      rw [hrun'] at hr'
      cases hr
      cases hr'
      rw [← stepMeaning_untimed, ← stepMeaning_untimed action target ⟨false, text'⟩]
      exact hsame
    · have hreplies (text : String) : CheckReplies .playback .bySelector none (awaiting text) target
          ⟨false, text⟩ := replies_awaiting _ _ _
      obtain ⟨w, hrun⟩ := validateSelector_of_replies (hreplies text)
      obtain ⟨w', hrun'⟩ := validateSelector_of_replies (hreplies text')
      obtain ⟨v, u, u', hv, hv'⟩ := h.check _ _ _ _ _ _ _ _ (hreplies text) (hreplies text')
      rw [hrun] at hv
      rw [hrun'] at hv'
      have hv := Except.ok.inj (Except.ok.inj (Prod.mk.inj hv).1)
      have hv' := Except.ok.inj (Except.ok.inj (Prod.mk.inj hv').1)
      exact hv.trans hv'.symm
  · rintro ⟨hstep, hcheck⟩
    refine ⟨?_, ?_⟩
    · intro σ b b' tools d d' w w' action target data hreplies hreplies'
      obtain ⟨time, u, hrun⟩ := executeStep_of_replies hreplies
      obtain ⟨time', u', hrun'⟩ := executeStep_of_replies hreplies'
      refine ⟨_, _, u, u', hrun, hrun', ?_⟩
      rw [hstep action target]
      rfl
    · intro σ b b' tools d d' w w' target hreplies hreplies'
      obtain ⟨u, hrun⟩ := validateSelector_of_replies hreplies
      obtain ⟨u', hrun'⟩ := validateSelector_of_replies hreplies'
      rw [← hcheck target] at hrun'
      exact ⟨_, u, u', hrun, hrun'⟩

/-- A text with anything but blanks in it is a better selector than none. -/
theorem betterSelector_ne_none {text : String} (h : Text.isAllBlank text.toList = false) :
    betterSelector (some text) "" ≠ none := by
  have hne : Text.trim text.toList ≠ [] := by
    rw [Ne, Answer.trim_eq_nil_iff, h]
    exact Bool.false_ne_true
  have htext : trimmed text ≠ "" := by
    intro hempty
    rw [trimmed, ← String.toList_inj, String.toList_ofList] at hempty
    exact hne hempty
  have hblank : trimmed "" = "" := rfl
  simp [betterSelector, hblank, htext]

/-- Texts with one answer in them mean the same. -/
theorem meansTheSame_of_parse? {text text' : String} {a : Answer}
    (h : Answer.parse? text = some a) (h' : Answer.parse? text' = some a) :
    MeansTheSame text text' := by
  refine meansTheSame_iff_results.2 ⟨fun action target => ?_, fun target => ?_⟩
  · simp only [stepMeaning, stepResult, h, h', Bool.false_eq_true, if_false]
  · simp only [validation, h, h', Bool.false_eq_true, if_false]

/-- A text that is no structured answer means something else than one that is: if the step with the
other one succeeds too, and shows no selector, a check of nothing shows none with the other one, and
the text with the first. -/
theorem not_meansTheSame {text text' : String} {a : Answer} (hnone : Answer.parse? text = none)
    (hsome : Answer.parse? text' = some a) (htext : Text.isAllBlank text.toList = false) :
    ¬ MeansTheSame text text' := by
  rw [meansTheSame_iff_results]
  rintro ⟨hstep, hcheck⟩
  have hclick := hstep .click ""
  have hempty := hcheck ""
  by_cases hfailed : a.success = some false
  · simp [stepMeaning, Action.isRecognized, stepResult, StepResult.failed, hnone, hsome, hfailed]
      at hclick
  · simp [stepMeaning, Action.isRecognized, stepResult, hnone, hsome, hfailed] at hclick
    simp [validation, hnone, hsome, hfailed] at hempty
    exact betterSelector_ne_none htext (hempty.trans hclick.symm)

/-- **When an embedded answer means the same as the answer alone.** The object in a text says
whether it succeeded, and no brace opens before it. Then the text means what the object means by
itself exactly if something stands before the object or nothing behind it, blanks left aside. -/
theorem meansTheSame_iff {members : List (Option String × Document)} {object : List Char}
    {a : Answer} (hobject : SpellsText (.object members true) object)
    (ha : Answer.ofObject? object = some a) (hsuccess : a.success.isSome = true)
    {before : List Char} (hbefore : '\x7b' ∉ before) (after : List Char) :
    MeansTheSame (String.ofList (before ++ (object ++ after))) (String.ofList object) ↔
      Text.isAllBlank before = false ∨ Text.isAllBlank after = true := by
  have halone : Answer.parse? (String.ofList object) = some a := by
    rw [Answer.parse?_object (by rwa [String.toList_ofList]), String.toList_ofList, ha]
  have haround := Answer.parse?_around_text hbefore hobject after
  have htelling : a.isTelling = true := by
    rw [Answer.isTelling, hsuccess, Bool.true_or]
  rw [ha, Option.filter_some, htelling, if_pos rfl] at haround
  have htext : Text.isAllBlank (before ++ (object ++ after)) = false := by
    obtain ⟨c, hc, hblank⟩ := Answer.exists_not_isBlank hobject
    refine List.all_eq_false.2 ⟨c, ?_, by simp [hblank]⟩
    simp [hc]
  cases hb : Text.isAllBlank before with
  | false =>
      rw [hb, if_neg Bool.false_ne_true] at haround
      exact iff_of_true (meansTheSame_of_parse? haround halone) (.inl rfl)
  | true =>
      rw [hb, if_pos rfl] at haround
      cases hafter : Text.isAllBlank after with
      | true =>
          rw [hafter, if_pos rfl] at haround
          exact iff_of_true (meansTheSame_of_parse? haround halone) (.inr rfl)
      | false =>
          rw [hafter, if_neg Bool.false_ne_true] at haround
          refine iff_of_false (not_meansTheSame haround halone ?_) (by simp)
          rw [String.toList_ofList]
          exact htext

/-- A refusal means the same after a word, but not before one. -/
theorem meansTheSame_iff_refusal :
    MeansTheSame (String.ofList ("Reply: ".toList ++
        ((refusal (.string "no element")).compact ++ " (end)".toList)))
      (refusal (.string "no element")).text ∧
    ¬ MeansTheSame (String.ofList ([] ++
        ((refusal (.string "no element")).compact ++ " (end)".toList)))
      (refusal (.string "no element")).text := by
  have hspells : SpellsText (.ofJson (refusal (.string "no element")))
      (refusal (.string "no element")).compact :=
    (spells_compact (refusal (.string "no element")) ⟨trivial, trivial, trivial⟩).text
  have hread : Answer.ofObject? (refusal (.string "no element")).compact =
      some ⟨some false, none, some "no element"⟩ := by decide +kernel
  have hmeans {before : List Char} (hbefore : '\x7b' ∉ before) :=
    meansTheSame_iff hspells hread rfl hbefore " (end)".toList
  refine ⟨(hmeans (by decide)).2 (.inl (by decide)), fun h => ?_⟩
  rcases (hmeans (by simp)).1 h with hbefore | hafter
  · exact absurd hbefore (by decide)
  · exact absurd hafter (by decide)

end Session

end Scenarist
