import Scenarist.Gemini.Client

/-!
# What Is Told of the Key

The key of the text service is a part of the address of a client, and of nothing else in it. So what
a client gives back depends on the key only where it shows the address, and this module says where
that is: for two keys and one outcome of the exchange, the client gives back the same exactly if an
answer has reached it, or there is but one key (`told_eq_told_iff`). A client that could not
send its query, or was not answered, gives back a failure that names the address with the key in it.

That two keys are told apart by the addresses they are in rests on the encoding of pairs, which
loses nothing of a text (`pairDecode_pairEncode`).

## Main results

* `Url.pairDecode_pairEncode`: **the encoding of pairs is undone** by decoding them.
* `Url.Address.text_appendPair_injective`: the text of an address tells the value of its last pair.
* `Gemini.told_eq_told_iff`: **when the key makes no difference**.
-/

namespace Scenarist

namespace Text

/-- Different texts have different bytes. -/
theorem bytes_injective {as bs : List Char} (h : bytes as = bytes bs) : as = bs := by
  have hencoded : as.utf8Encode = bs.utf8Encode := by
    rw [List.utf8Encode, List.utf8Encode]
    exact congrArg List.toByteArray h
  refine String.ofList_injective (String.toByteArray_inj.1 ?_)
  rw [String.toByteArray_ofList, String.toByteArray_ofList, hencoded]

/-- A character of ASCII is its byte. -/
theorem bytes_singleton {n : Nat} (h : n < 128) : bytes [Char.ofNat n] = [UInt8.ofNat n] := by
  revert n
  decide

end Text

namespace Url

/-! ### The encoding of pairs -/

/-- A byte in the encoding of pairs. -/
def pairByte (b : UInt8) : List Char :=
  if b = 32 then ['+'] else if isPlainInPair b.toNat then [Char.ofNat b.toNat] else percentByte b

/-- A blank for a plus sign, as it is put before a pair is decoded. -/
def spaced (c : Char) : Char := if c = '+' then ' ' else c

theorem percentDecode_cons_of_ne {c : Char} (hc : c ≠ '%') (cs : List Char) :
    percentDecode (c :: cs) = Text.bytes [c] ++ percentDecode cs := by
  rw [percentDecode]
  intro h l rest hsign
  exact absurd hsign hc

theorem spaced_hexDigit : ∀ n < 16, spaced (Text.hexDigit n) = Text.hexDigit n := by decide

/-- The characters that stand for themselves are of ASCII, and none of them is a sign of the
encoding. -/
theorem of_isPlainInPair {n : Nat} (h : isPlainInPair n = true) :
    n < 128 ∧ spaced (Char.ofNat n) = Char.ofNat n ∧ Char.ofNat n ≠ '%' := by
  have hlt : n < 128 := by
    simp only [isPlainInPair, Bool.or_eq_true, Bool.and_eq_true, decide_eq_true_eq] at h
    omega
  have hsigns : ∀ m < 128, isPlainInPair m = true →
      spaced (Char.ofNat m) = Char.ofNat m ∧ Char.ofNat m ≠ '%' := by decide
  exact ⟨hlt, hsigns n hlt h⟩

/-- A byte is decoded, whatever comes after it. -/
theorem percentDecode_pairByte (b : UInt8) (cs : List Char) :
    percentDecode ((pairByte b ++ cs).map spaced) = b :: percentDecode (cs.map spaced) := by
  rw [pairByte]
  split
  · next hblank =>
    subst hblank
    exact percentDecode_cons_of_ne (by decide) _
  · split
    · next hplain =>
      obtain ⟨hlt, hspaced, hpercent⟩ := of_isPlainInPair hplain
      rw [List.singleton_append, List.map_cons, hspaced, percentDecode_cons_of_ne hpercent,
        Text.bytes_singleton hlt, UInt8.ofNat_toNat]
      rfl
    · have hb : b.toNat < 256 := b.toNat_lt
      have hhigh : b.toNat / 16 < 16 := by omega
      have hlow : b.toNat % 16 < 16 := by omega
      have hsum : 16 * (b.toNat / 16) + b.toNat % 16 = b.toNat := by omega
      have hpercent : spaced '%' = '%' := rfl
      simp only [percentByte, List.cons_append, List.nil_append, List.map_cons, hpercent,
        spaced_hexDigit _ hhigh, spaced_hexDigit _ hlow]
      rw [percentDecode, Text.hexValue?_hexDigit _ hhigh, Text.hexValue?_hexDigit _ hlow]
      dsimp only
      rw [hsum, UInt8.ofNat_toNat]

/-- **The encoding of pairs is undone** by decoding them. -/
theorem pairDecode_pairEncode (cs : List Char) : pairDecode (pairEncode cs) = Text.bytes cs := by
  change percentDecode (((Text.bytes cs).flatMap pairByte).map spaced) = Text.bytes cs
  generalize Text.bytes cs = bs
  induction bs with
  | nil => rfl
  | cons b bs ih => rw [List.flatMap_cons, percentDecode_pairByte, ih]

theorem pairEncode_injective {as bs : List Char} (h : pairEncode as = pairEncode bs) : as = bs := by
  refine Text.bytes_injective ?_
  rw [← pairDecode_pairEncode, h, pairDecode_pairEncode]

/-! ### Addresses with a pair at the end -/

namespace Address

/-- The value of the last pair stands in the text of an address, and around it is what does not
depend on it. -/
theorem exists_text_appendPair (a : Address) (name : String) :
    ∃ before after, ∀ value : String,
      (a.appendPair name value).text = before ++ (pairEncode value.toList ++ after) := by
  have hfront : ∃ front, ∀ value : String,
      (a.appendPair name value).query = some (front ++ pairEncode value.toList) := by
    cases hquery : a.query with
    | none => exact ⟨pairEncode name.toList ++ ['='], fun value => by simp [appendPair, hquery]⟩
    | some q =>
        cases q with
        | nil => exact ⟨pairEncode name.toList ++ ['='], fun value => by simp [appendPair, hquery]⟩
        | cons c q =>
            exact ⟨c :: q ++ '&' :: (pairEncode name.toList ++ ['=']),
              fun value => by simp [appendPair, hquery]⟩
  have hback : ∃ back, ∀ b : Address, b.fragment = a.fragment → b.text = b.requestText ++ back :=
    ⟨_, fun b hb => by rw [text, hb]⟩
  obtain ⟨front, hfront⟩ := hfront
  obtain ⟨back, hback⟩ := hback
  refine ⟨a.scheme ++ ':' :: a.hostText ++ a.pathText ++ '?' :: front, back, fun value => ?_⟩
  have hrequest : (a.appendPair name value).requestText =
      a.scheme ++ ':' :: a.hostText ++ a.pathText ++ '?' :: (front ++ pairEncode value.toList) := by
    rw [requestText, hfront]
    rfl
  rw [hback (a.appendPair name value) rfl, hrequest]
  simp only [List.append_assoc, List.cons_append]

/-- **The text of an address tells the value of its last pair.** -/
theorem text_appendPair_injective {a : Address} {name value value' : String}
    (h : (a.appendPair name value).text = (a.appendPair name value').text) : value = value' := by
  obtain ⟨before, after, htext⟩ := a.exists_text_appendPair name
  rw [htext, htext] at h
  have hencoded := List.append_cancel_right (List.append_cancel_left h)
  exact String.toList_inj.1 (pairEncode_injective hencoded)

end Address

end Url

namespace Gemini

/-! ### Failures -/

/-- A failure to bring about an exchange names the address. -/
theorem text_eq_of_sendFailure {a a' : Url.Address} {what : String}
    (h : sendFailure a what = sendFailure a' what) : a.anonymous.text = a'.anonymous.text := by
  have hmessage := congrArg String.toList (Failure.generation.inj h)
  simp only [String.toList_append, String.toList_ofList] at hmessage
  exact List.append_cancel_left (List.append_cancel_right hmessage)

/-! ### Settings -/

/-- The endpoint of the settings has a key of its own, and no other is added to it. -/
def NamesKey (s : GeminiSettings) : Prop :=
  ∃ a, Url.parse (methodAddress s.endpoint s.model) = .ok a ∧ a.hasPair "key" = true

/-- The address of a client is that of the method, with the key if it has none. -/
theorem exists_address {s : GeminiSettings} {key : String} {c : Client}
    (hc : Client.ofSettings { s with apiKey := some key } = .ok c) :
    ∃ a, Url.parse (methodAddress s.endpoint s.model) = .ok a ∧
      c = ⟨if a.hasPair "key" then a else a.appendPair "key" key, s.model, s.temperature⟩ := by
  simp only [Client.ofSettings, resolveEndpoint] at hc
  cases hparse : Url.parse (methodAddress s.endpoint s.model) with
  | error e =>
      simp only [hparse] at hc
      cases hc
  | ok a =>
      simp only [hparse] at hc
      cases hc
      exact ⟨a, rfl, rfl⟩

/-! ### What a client gives back -/

/-- What a client gives back for a prompt, if this is how the exchange ends. -/
def Client.told (c : Client) (x : Exchange) (prompt : String) : Except Failure String :=
  Id.run (complete (fun _ => pure x) c prompt)

/-- An answer **reaches** the client: its query can be sent, and the exchange ends with a status and
a body. -/
def Reaches (x : Exchange) (c : Client) : Prop :=
  isOnWeb c.address = true ∧ ∃ status body, x = .answered status body

/-- An answer is read without a look at the client. -/
theorem told_of_answered {c : Client} (hweb : isOnWeb c.address = true) (status : Nat)
    (body : List UInt8) (prompt : String) :
    c.told (.answered status body) prompt = readAnswer status body := by
  simp [Client.told, complete, hweb]

/-- Without an answer, the failure names the address. -/
theorem told_of_not_reaches {c : Client} {x : Exchange} (h : ¬ Reaches x c) (prompt : String) :
    c.told x prompt = .error (sendFailure c.address
      (if isOnWeb c.address then "error sending request" else "builder error")) := by
  cases hweb : isOnWeb c.address with
  | false => simp [Client.told, complete, hweb]
  | true =>
      cases x with
      | failed => simp [Client.told, complete, hweb]
      | answered status body => exact absurd ⟨hweb, status, body, rfl⟩ h

/-- Two keys are told apart by what is given back without an answer. -/
theorem key_eq_of_told {a : Url.Address} {key key' model : String} {temperature : Option Single}
    {x : Exchange} {prompt : String}
    (hreaches : ¬ Reaches x ⟨a.appendPair "key" key, model, temperature⟩)
    (h : Client.told ⟨a.appendPair "key" key, model, temperature⟩ x prompt =
      Client.told ⟨a.appendPair "key" key', model, temperature⟩ x prompt) : key = key' := by
  have hreaches' : ¬ Reaches x ⟨a.appendPair "key" key', model, temperature⟩ := hreaches
  rw [told_of_not_reaches hreaches, told_of_not_reaches hreaches'] at h
  have htext := text_eq_of_sendFailure (Except.error.inj h)
  exact Url.Address.text_appendPair_injective (a := a.anonymous) htext

/-- **When the key makes no difference**: two clients that differ in their keys give back the same,
where the exchange ends in the same way, exactly if an answer has reached them, or the endpoint has
a key of its own, or the keys are the same. In all other cases the failure shows the key. -/
theorem told_eq_told_iff {s : GeminiSettings} {key key' : String} {c c' : Client}
    (hc : Client.ofSettings { s with apiKey := some key } = .ok c)
    (hc' : Client.ofSettings { s with apiKey := some key' } = .ok c') (x : Exchange)
    (prompt : String) :
    c.told x prompt = c'.told x prompt ↔ Reaches x c ∨ NamesKey s ∨ key = key' := by
  obtain ⟨a, hparse, rfl⟩ := exists_address hc
  obtain ⟨a', hparse', rfl⟩ := exists_address hc'
  obtain rfl : a = a' := Except.ok.inj (hparse.symm.trans hparse')
  cases hpair : a.hasPair "key" with
  | true => exact iff_of_true rfl (.inr (.inl ⟨a, hparse, hpair⟩))
  | false =>
      have hnames : ¬ NamesKey s := by
        rintro ⟨b, hb, hkey⟩
        obtain rfl : a = b := Except.ok.inj (hparse.symm.trans hb)
        rw [hpair] at hkey
        cases hkey
      constructor
      · intro heq
        by_cases hreaches : Reaches x ⟨a.appendPair "key" key, s.model, s.temperature⟩
        · exact .inl hreaches
        · exact .inr (.inr (key_eq_of_told hreaches heq))
      · rintro (⟨hweb, status, body, rfl⟩ | hkey | rfl)
        · rw [told_of_answered hweb, told_of_answered (by exact hweb)]
        · exact absurd hkey hnames
        · rfl

/-- Settings of a service nearby. -/
def nearby : GeminiSettings := ⟨"http://h", "m", none, 1, none⟩

/-- The address of its method. -/
def nearbyAddress : Url.Address :=
  ⟨"http".toList, [], some (.name "h".toList), none,
    .segments ["v1beta".toList, "models".toList, "m:generateContent".toList], none, none⟩

theorem parse_nearby :
    Url.parse (methodAddress nearby.endpoint nearby.model) = .ok nearbyAddress := by
  have hread : (Url.parse (methodAddress nearby.endpoint nearby.model)).toOption =
      some nearbyAddress := by decide +kernel
  cases hparse : Url.parse (methodAddress nearby.endpoint nearby.model) with
  | error e =>
      rw [hparse] at hread
      cases hread
  | ok a =>
      rw [hparse] at hread
      cases hread
      rfl

theorem ofSettings_nearby (key : String) :
    Client.ofSettings { nearby with apiKey := some key } =
      .ok ⟨nearbyAddress.appendPair "key" key, nearby.model, nearby.temperature⟩ := by
  have hpair : nearbyAddress.hasPair "key" = false := rfl
  simp only [Client.ofSettings, resolveEndpoint, parse_nearby, hpair]
  rfl

/-- A dropped connection shows the key, an answer does not. -/
theorem told_eq_told_iff_nearby : ∃ c c',
    Client.ofSettings { nearby with apiKey := some "first" } = .ok c ∧
    Client.ofSettings { nearby with apiKey := some "second" } = .ok c' ∧
    c.told .failed "hello" ≠ c'.told .failed "hello" ∧
    c.told (.answered 429 []) "hello" = c'.told (.answered 429 []) "hello" := by
  have hc := ofSettings_nearby "first"
  have hc' := ofSettings_nearby "second"
  refine ⟨_, _, hc, hc', fun hsame => ?_, ?_⟩
  · obtain ⟨-, status, body, hx⟩ | hkey | hkey := (told_eq_told_iff hc hc' .failed "hello").1 hsame
    · cases hx
    · obtain ⟨a, hparse, hpair⟩ := hkey
      obtain rfl : nearbyAddress = a := Except.ok.inj (parse_nearby.symm.trans hparse)
      cases hpair
    · exact absurd hkey (by decide)
  · exact (told_eq_told_iff hc hc' (.answered 429 []) "hello").2 (.inl ⟨rfl, 429, [], rfl⟩)

end Gemini

end Scenarist
