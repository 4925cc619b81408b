import Scenarist.Proofs.Channel.Handshake
import Scenarist.Proofs.Json.Record
import Scenarist.Proofs.Json.Soundness

/-!
# Lines That Are Skipped

A server may write more to its output than messages. A line that is skipped is read, and then all
goes on as if it had not been there (`IsSkipped`): nothing is written for it, and the request that
is waited for goes on and ends as it would have done. So a server that writes such lines between
its messages gets as far with a client as one that does not (`awaitResponse_alike`).

A line that holds no JSON object is skipped, with one exception. A record may also be given as the
array of its fields in order, those at the end left out at will, and so an array of at most four
items may be a message (`Message.IsListed`). If its id is that of the request and it has no method,
it settles the request; if it has an id and a method, it is answered. All other texts are skipped,
and all other arrays.

## Main results

* `isSkipped_iff`: what is skipped is neither the response nor a request of the server.
* `awaitResponse_alike`: **what is skipped makes no difference later**.
* `ofLine?_eq_some_iff_isListed`: which lines without an object are messages.
* `isSkipped_iff_of_not_holdsObject`: **which lines without an object are skipped**, and by which of
  them a client is connected.
-/

namespace Scenarist

open Json

namespace Channel

variable {id : Nat} {cs : List Char}

/-! ### Messages that are listed -/

/-- The items of an array **list the fields of the message**: its id, its method, its result and its
error in this order. What is left out at the end is null. -/
@[mk_iff]
structure Message.Lists (m : Message) (items : List Document) : Prop where
  length_le : items.length ≤ 4
  id_eq : (items.getD 0 .null).asOption (·.asJson) = .ok m.id
  method_eq : (items.getD 1 .null).asOption (·.asText) = .ok m.method
  result_eq : (items.getD 2 .null).asOption (·.asJson) = .ok m.result
  error_eq : (items.getD 3 .null).asOption (RemoteError.shape.read .text) = .ok m.error

/-- The arrays that are read as messages. -/
theorem Message.read_array_eq_ok_iff {items : List Document} {m : Message} :
    shape.read .text (.array items true) = .ok m ↔ m.Lists items := by
  have hnull {α : Type} (read : Document → Reading α) : Document.null.asOption read = .ok none :=
    rfl
  have hpresence : ∀ f ∈ shape.fields, f.presence = .optional := by simp [shape]
  rw [RecordShape.read_array_eq_ok_iff hpresence, lists_iff]
  obtain ⟨i, method, result, error⟩ := m
  rcases items with _ | ⟨a, _ | ⟨b, _ | ⟨c, _ | ⟨d, _ | ⟨e, rest⟩⟩⟩⟩⟩
  all_goals
    simp [shape, bind_eq_ok_iff, map_eq_ok_iff, hnull, pure, Except.pure, -bind_pure_comp]

/-- The line **holds an object**, with nothing but blanks around it. -/
def HoldsObject (cs : List Char) : Prop :=
  ∃ members, SpellsText (.object members true) (Text.trim cs)

/-- The message **is listed** on the line, by an array of its fields. -/
def Message.IsListed (m : Message) (cs : List Char) : Prop :=
  ∃ items, SpellsText (.array items true) (Text.trim cs) ∧ m.Lists (Document.limitedItems 1 items)

/-- A text that is read as a message is an object or an array. -/
theorem exists_items_of_read {d : Document} {m : Message}
    (hread : Message.shape.read .text (d.limited 0) = .ok m) (hd : SpellsText d cs) :
    (∃ items, d = .array items true) ∨ ∃ members, d = .object members true := by
  cases hd with
  | mk _ hd _ =>
      cases hd with
      | emptyArray | array => exact .inl ⟨_, rfl⟩
      | emptyObject | object => exact .inr ⟨_, rfl⟩
      | _ =>
          simp only [Document.limited, RecordShape.read] at hread
          cases (congrArg Except.isOk hread).symm.trans (Document.unexpected_isOk _ _)

/-- **Which lines without an object are messages.** -/
theorem ofLine?_eq_some_iff_isListed {m : Message} (hobject : ¬ HoldsObject cs) :
    Message.ofLine? cs = some m ↔ m.IsListed cs := by
  have hline : Message.ofLine? cs = some m ↔
      readText (Message.shape.read .text) (String.ofList (Text.trim cs)) = .ok m := by
    rw [Message.ofLine?]
    cases readText (Message.shape.read .text) (String.ofList (Text.trim cs)) <;> simp
  rw [hline, readText_eq_ok_iff, String.toList_ofList]
  constructor
  · rcases htext : Document.ofText (Text.trim cs) with ⟨d, whole⟩
    rintro ⟨hread, rfl⟩
    obtain ⟨d, hd, rfl⟩ := Document.ofText_eq_true_iff.1 htext
    rcases exists_items_of_read hread hd with ⟨items, rfl⟩ | ⟨members, rfl⟩
    · exact ⟨items, hd, Message.read_array_eq_ok_iff.1 hread⟩
    · exact absurd ⟨members, hd⟩ hobject
  · rintro ⟨items, hitems, hlists⟩
    rw [Document.ofText_of_spellsText hitems]
    exact ⟨Message.read_array_eq_ok_iff.2 hlists, rfl⟩

/-! ### What is skipped -/

/-- The message is a **request of the server**: it has an id and a method. -/
def Message.IsRequest (m : Message) : Prop := m.id.isSome ∧ m.method.isSome

theorem answerTo?_eq_none_iff :
    answerTo? cs = none ↔ ∀ m, Message.ofLine? cs = some m → ¬ m.IsRequest := by
  rw [answerTo?]
  rcases Message.ofLine? cs with _ | ⟨i, method, result, error⟩
  · simp
  · cases i <;> cases method <;> simp [Message.IsRequest]

namespace Client

variable {π : Type} {h h' : Server π} {c c' : Client π}

/-- **The line is skipped** by a client that waits for the response to the request `id`: when it has
been read, all goes on as if it had not been there. -/
def IsSkipped (id : Nat) (cs : List Char) : Prop :=
  ∀ (π : Type) (h : Server π) (c : Client π) (rest : List (List Char)) (ended : Bool)
    (patience : Nat),
    awaitResponse h (.nat id) (patience + 1) { c with link := some ⟨cs :: rest, ended⟩ } =
      awaitResponse h (.nat id) patience { c with link := some ⟨rest, ended⟩ }

/-- A server that takes every line and says nothing. -/
def mute : Server Unit where
  start _ _ _ := .ok ()
  take p _ := (p, [], false)
  lingers _ := false

/-- **What is skipped** is neither the response nor a request of the server. -/
theorem isSkipped_iff : IsSkipped id cs ↔ ¬ IsResponse id cs ∧ answerTo? cs = none := by
  have hregarded := stepOf_regarded id cs
  generalize hstep : stepOf (.nat id) cs = step at hregarded
  constructor
  · intro hskipped
    -- a client of a mute server that has this line to read, and no time for another one
    have hmute := hskipped Unit mute (start ()) [] false 0
    simp only [awaitResponse, hstep] at hmute
    cases hregarded with
    | skip hnot hanswer => exact ⟨hnot, hanswer⟩
    | finish hsettles hanswer => simp at hmute
    | answer hnot hanswer =>
        simp [send, write, mute, start] at hmute
  · rintro ⟨hnot, hanswer⟩ π h c rest ended patience
    cases hregarded with
    | skip => simp only [awaitResponse, hstep]
    | finish hsettles => exact absurd hsettles.isResponse hnot
    | answer _ hanswer' => cases hanswer.symm.trans hanswer'

/-! ### More lines that are skipped -/

/-- The lines, with others in between that are skipped. -/
inductive Padded (id : Nat) : List (List Char) → List (List Char) → Prop where
  | nil : Padded id [] []
  | keep (cs : List Char) {lines lines' : List (List Char)} (h : Padded id lines lines') :
      Padded id (cs :: lines) (cs :: lines')
  | pad {cs : List Char} {lines lines' : List (List Char)} (hcs : IsSkipped id cs)
      (h : Padded id lines lines') : Padded id lines (cs :: lines')

theorem Padded.append {a a' b b' : List (List Char)} (ha : Padded id a a') (hb : Padded id b b') :
    Padded id (a ++ b) (a' ++ b') := by
  induction ha with
  | nil => exact hb
  | keep cs _ ih => exact .keep cs ih
  | pad hcs _ ih => exact .pad hcs ih

/-- The second connection has more to read, but nothing else to learn. -/
structure Link.IsPadded (id : Nat) (l l' : Link) : Prop where
  inbox : Padded id l.inbox l'.inbox
  ended : l'.ended = l.ended

/-- The second server writes the lines of the first, and others in between that are skipped. -/
structure Server.IsPadded (id : Nat) (h h' : Server π) : Prop where
  take : ∀ p cs, (h'.take p cs).1 = (h.take p cs).1 ∧
    Padded id (h.take p cs).2.1 (h'.take p cs).2.1 ∧ (h'.take p cs).2.2 = (h.take p cs).2.2
  meanwhile : ∀ p, (h'.meanwhile p).1 = (h.meanwhile p).1 ∧
    Padded id (h.meanwhile p).2.1 (h'.meanwhile p).2.1 ∧
    (h'.meanwhile p).2.2 = (h.meanwhile p).2.2
  refuses : h'.refuses = h.refuses
  output : h'.output = h.output

/-- The clients **differ in nothing but lines that are skipped**. -/
structure Alike (id : Nat) (c c' : Client π) : Prop where
  server : c'.server = c.server
  link : Option.Rel (Link.IsPadded id) c.link c'.link
  initialized : c'.initialized = c.initialized
  nextId : c'.nextId = c.nextId
  sent : c'.sent = c.sent

theorem write_padded (hh : Server.IsPadded id h h') {l l' : Link} (hl : Link.IsPadded id l l')
    (server : π) (cs : List Char) :
    (write h' server l' cs).1 = (write h server l cs).1 ∧
      Link.IsPadded id (write h server l cs).2.1 (write h' server l' cs).2.1 ∧
      (write h' server l' cs).2.2 = (write h server l cs).2.2 := by
  obtain ⟨hp, hbefore, hended⟩ := hh.meanwhile server
  obtain ⟨hp', hafter, hended'⟩ := hh.take (h.meanwhile server).1 cs
  cases hl' : l.ended with
  | true => simpa [write, hl.ended, hl'] using hl
  | false =>
      cases hgone : (h.meanwhile server).2.2 with
      | true =>
          simp only [write, hl.ended, hl', hp, hended, hgone]
          exact ⟨rfl, ⟨hl.inbox.append hbefore, rfl⟩, rfl⟩
      | false =>
          cases hrefuses : h.refuses (h.meanwhile server).1 with
          | some reason =>
              simp only [write, hl.ended, hl', hp, hended, hgone, hh.refuses, hrefuses]
              exact ⟨rfl, ⟨hl.inbox.append hbefore, rfl⟩, rfl⟩
          | none =>
              simp only [write, hl.ended, hl', hp, hended, hgone, hh.refuses, hrefuses]
              exact ⟨hp', ⟨(hl.inbox.append hbefore).append hafter, hended'⟩, rfl⟩

theorem send_alike (hh : Server.IsPadded id h h') (hc : Alike id c c') (message : Json) :
    (send h' c' message).2 = (send h c message).2 ∧
      Alike id (send h c message).1 (send h' c' message).1 := by
  obtain ⟨_, link, _, _, _⟩ := c
  obtain ⟨server, link', initialized, nextId, sent⟩ := c'
  obtain ⟨rfl, hlink, rfl, rfl, rfl⟩ := hc
  cases hlink with
  | none => exact ⟨rfl, rfl, .none, rfl, rfl, rfl⟩
  | @some l l' hl =>
      obtain ⟨hp, hwritten, hr⟩ := write_padded hh hl server (line message)
      exact ⟨hr, hp, .some hwritten, rfl, rfl, rfl⟩

/-- **What is skipped makes no difference later.** A client that has such lines to read in addition,
or whose server writes such lines in addition, comes to the same end with the same words, if only
it has the time to read them. -/
theorem awaitResponse_alike (hh : Server.IsPadded id h h') (hc : Alike id c c') (patience : Nat) :
    ∃ more, (awaitResponse h' (.nat id) (more + patience) c').2 =
        (awaitResponse h (.nat id) patience c).2 ∧
      Alike id (awaitResponse h (.nat id) patience c).1
        (awaitResponse h' (.nat id) (more + patience) c').1 := by
  induction patience generalizing c c' with
  | zero => exact ⟨0, rfl, hc⟩
  | succ patience ih =>
      obtain ⟨_, link, _, _, _⟩ := c
      obtain ⟨server, link', initialized, nextId, sent⟩ := c'
      obtain ⟨rfl, hlink, rfl, rfl, rfl⟩ := hc
      cases hlink with
      | none => exact ⟨0, rfl, rfl, .none, rfl, rfl, rfl⟩
      | @some l l' hl =>
          obtain ⟨inbox, _⟩ := l
          obtain ⟨inbox', ended⟩ := l'
          obtain ⟨hinbox, rfl⟩ := hl
          dsimp only at hinbox ⊢
          -- the lines that are skipped come one by one before the next one that both have
          induction hinbox with
          | nil =>
              refine ⟨0, ?_, rfl, .some ⟨.nil, rfl⟩, rfl, rfl, rfl⟩
              simp only [awaitResponse, exhausted, hh.output]
          | @pad cs lines lines' hcs hinbox ihpad =>
              obtain ⟨more, hr, halike⟩ := ihpad
              refine ⟨more + 1, ?_⟩
              have hskip := hcs π h' ⟨server, none, initialized, nextId, sent⟩ lines' ended
                (more + (patience + 1))
              dsimp only at hskip
              rw [Nat.add_right_comm more 1, hskip]
              exact ⟨hr, halike⟩
          | @keep cs lines lines' hinbox _ =>
              have hrest : Alike id ⟨server, some ⟨lines, ended⟩, initialized, nextId, sent⟩
                  ⟨server, some ⟨lines', ended⟩, initialized, nextId, sent⟩ :=
                ⟨rfl, .some ⟨hinbox, rfl⟩, rfl, rfl, rfl⟩
              simp only [awaitResponse]
              cases stepOf (.nat id) cs with
              | skip => exact ih hrest
              | finish r => exact ⟨0, rfl, hrest⟩
              | answer i method =>
                  have hsent := send_alike hh hrest (answer i method)
                  dsimp only
                  revert hsent
                  rcases send h ⟨server, some ⟨lines, ended⟩, initialized, nextId, sent⟩
                    (answer i method) with ⟨u, r⟩
                  rcases send h' ⟨server, some ⟨lines', ended⟩, initialized, nextId, sent⟩
                    (answer i method) with ⟨u', r'⟩
                  rintro ⟨hr, halike⟩
                  obtain rfl : r' = r := hr
                  cases r' with
                  | error failure => exact ⟨0, rfl, halike⟩
                  | ok _ => exact ih halike

/-! ### Lines without an object -/

/-- The line by which a client is connected: the last one that was read for its introduction. -/
theorem exists_response_of_connect {s : AutomationSettings} {delay : Nat}
    (hlinked : c.initialized = c.link.isSome) (hc : c.initialized = false)
    (hconnect : connect h s c = (c', .after delay (.ok ()))) :
    ∃ server x u, x.IsIntroduction ∧
      Talk h (c.reached server) [.asked x, .notified introducedNotice] u ∧
      ∃ skipped line v, x.read = skipped ++ [line] ∧ Settles x.id line (.ok v) := by
  obtain ⟨_, _, _, _, ht, heffect⟩ := connect_effect hlinked hconnect
  cases ht
  cases heffect with
  | connectedAlready hc' => cases hc.symm.trans hc'
  | introduced _ server _ x hx _ v hending u htalk =>
      obtain ⟨skipped, line, hresponse⟩ :=
        (htalk.decided .fresh rfl [] x _ rfl).exists_line hending
      exact ⟨server, x, u, hx, htalk, skipped, line, v, hresponse⟩

/-- **Which lines without an object are skipped**: all but the arrays that list the fields of a
message which is the response that is waited for, or a request of the server. A client that comes to
be connected by a line without an object was answered by such an array. -/
theorem isSkipped_iff_of_not_holdsObject (hobject : ¬ HoldsObject cs) :
    (IsSkipped id cs ↔ ∀ m : Message, m.IsListed cs → ¬ m.Responds id ∧ ¬ m.IsRequest) ∧
    ∀ (π : Type) (h : Server π) (s : AutomationSettings) (c c' : Client π) (delay : Nat),
      c.initialized = c.link.isSome → c.initialized = false →
      connect h s c = (c', .after delay (.ok ())) →
      ∃ server x u, x.IsIntroduction ∧
        Talk h (c.reached server) [.asked x, .notified introducedNotice] u ∧
        (x.read.getLast? = some cs → ∃ m : Message, m.IsListed cs ∧ m.Responds x.id) := by
  constructor
  · simp only [isSkipped_iff, answerTo?_eq_none_iff, IsResponse,
      ofLine?_eq_some_iff_isListed hobject, not_exists, not_and, imp_and, forall_and]
  · intro π h s c c' delay hlinked hc hconnect
    obtain ⟨server, x, u, hx, htalk, skipped, line, v, hread, hsettles⟩ :=
      exists_response_of_connect hlinked hc hconnect
    refine ⟨server, x, u, hx, htalk, fun hlast => ?_⟩
    rw [hread, List.getLast?_concat] at hlast
    cases hlast
    obtain ⟨m, hm, hresponds, -⟩ := hsettles
    exact ⟨m, (ofLine?_eq_some_iff_isListed hobject).1 hm, hresponds⟩

/-- A server whose only word is an array with the number of the first request in it. Its state is
the number of lines it has taken. -/
def terse : Server Nat where
  start _ _ _ := .ok 0
  take n _ := (n + 1, if n = 0 then ["[1]".toList] else [], false)
  lingers _ := false

/-- An array with a number in it is no object, but it answers the request with this number, and a
client is connected by it. -/
theorem isSkipped_iff_of_not_holdsObject_terse :
    ¬ HoldsObject "[1]".toList ∧ ¬ IsSkipped 1 "[1]".toList ∧
      ∃ c', connect terse .default (start 0) = (c', .after 0 (.ok ())) := by
  have htrim : Text.trim "[1]".toList = "[1]".toList := by decide +kernel
  have hnumber : IsNumber "1".toList :=
    @IsNumber.mk [] ['1'] [] [] (.inl rfl) ⟨by simp, rfl⟩ (.inr (by decide)) .none .none
  have harray : SpellsText (.array [.number (numberValue "1".toList)] true) "[1]".toList :=
    .mk (w := []) (u := []) rfl
      (.array (.one (.mk (w := []) (u := []) rfl (.number hnumber) rfl))) rfl
  have hobject : ¬ HoldsObject "[1]".toList := by
    rintro ⟨members, hmembers⟩
    rw [htrim] at hmembers
    cases (Document.ofText_of_spellsText harray).symm.trans (Document.ofText_of_spellsText hmembers)
  have hlisted : Message.IsListed ⟨some (.nat 1), none, none, none⟩ "[1]".toList := by
    refine ⟨_, htrim ▸ harray, ?_⟩
    exact ⟨by decide, rfl, rfl, rfl, rfl⟩
  have hnot : ¬ IsSkipped 1 "[1]".toList := fun hskipped =>
    ((isSkipped_iff_of_not_holdsObject hobject).1.1 hskipped _ hlisted).1 ⟨rfl, rfl⟩
  exact ⟨hobject, hnot, _, Prod.ext rfl rfl⟩

end Client

end Channel

end Scenarist
