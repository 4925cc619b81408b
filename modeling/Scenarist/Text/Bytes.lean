/-!
# Text as bytes

The UTF-8 form of a text, and the text that bytes stand for. Bytes that are not UTF-8 become
replacement characters, one for every longest piece that could have begun a character.
-/

namespace Scenarist.Text

/-- The UTF-8 form of a text. -/
def bytes (cs : List Char) : List UInt8 := cs.flatMap String.utf8EncodeChar

/-- A character of which some bytes have been read: the bits so far, the number of bytes to come,
and the least and the greatest next byte. -/
structure Pending where
  bits : Nat
  needed : Nat
  least : Nat
  greatest : Nat

/-- The character that replaces what is not UTF-8. -/
def replacement : Char := '\uFFFD'

/-- The first byte of a character: a whole character, the beginning of one, or neither. -/
def firstByte (b : Nat) : Option Char × Option Pending :=
  if b < 0x80 then (some (Char.ofNat b), none)
  else if 0xC2 ≤ b && b ≤ 0xDF then (none, some ⟨b - 0xC0, 1, 0x80, 0xBF⟩)
  else if 0xE0 ≤ b && b ≤ 0xEF then
    (none, some ⟨b - 0xE0, 2, if b = 0xE0 then 0xA0 else 0x80, if b = 0xED then 0x9F else 0xBF⟩)
  else if 0xF0 ≤ b && b ≤ 0xF4 then
    (none, some ⟨b - 0xF0, 3, if b = 0xF0 then 0x90 else 0x80, if b = 0xF4 then 0x8F else 0xBF⟩)
  else (some replacement, none)

/-- Reads bytes after the beginning of a character, if there is one. -/
def decodeFrom : Option Pending → List UInt8 → List Char
  | none, [] => []
  | some _, [] => [replacement]
  | none, b :: bs =>
    let (c, p) := firstByte b.toNat
    c.toList ++ decodeFrom p bs
  | some p, b :: bs =>
    let n := b.toNat
    if p.least ≤ n && n ≤ p.greatest then
      let bits := p.bits * 64 + (n - 0x80)
      if p.needed = 1 then Char.ofNat bits :: decodeFrom none bs
      else decodeFrom (some ⟨bits, p.needed - 1, 0x80, 0xBF⟩) bs
    else
      let (c, q) := firstByte n
      replacement :: c.toList ++ decodeFrom q bs

/-- The text that bytes stand for; a mark of byte order before it does not count. -/
def ofBytes (bs : List UInt8) : List Char :=
  match bs with
  | 0xEF :: 0xBB :: 0xBF :: rest => decodeFrom none rest
  | bs => decodeFrom none bs

/-- Reads UTF-8 bytes after the beginning of a character, if there is one. -/
def decodeFrom? : Option Pending → List UInt8 → Option (List Char)
  | none, [] => some []
  | some _, [] => none
  | none, b :: bs =>
    if b.toNat < 0x80 then (decodeFrom? none bs).map (Char.ofNat b.toNat :: ·)
    else
      match (firstByte b.toNat).2 with
      | none => none
      | some p => decodeFrom? (some p) bs
  | some p, b :: bs =>
    let n := b.toNat
    if p.least ≤ n && n ≤ p.greatest then
      let bits := p.bits * 64 + (n - 0x80)
      if p.needed = 1 then (decodeFrom? none bs).map (Char.ofNat bits :: ·)
      else decodeFrom? (some ⟨bits, p.needed - 1, 0x80, 0xBF⟩) bs
    else none

/-- The text whose UTF-8 form the bytes are. -/
def ofUtf8? (bs : List UInt8) : Option (List Char) := decodeFrom? none bs

end Scenarist.Text
