import Scenarist.Text.Bytes
import Scenarist.Text.Digit

/-!
# Percent encoding

A byte that may not stand for itself in a part of an address is written as a percent sign and two
hexadecimal digits. The sets of such characters grow from the fragment over the query and the path
to the user information. The pairs of a query have an encoding of their own, in which a blank is a
plus sign.
-/

namespace Scenarist.Url

/-- A byte as a percent sign and two digits. -/
def percentByte (b : UInt8) : List Char :=
  ['%', Text.hexDigit (b.toNat / 16), Text.hexDigit (b.toNat % 16)]

/-- The characters that never stand for themselves: controls, and everything beyond ASCII. -/
def isControl (c : Char) : Bool := c.toNat < 0x20 || 0x7E < c.toNat

/-- The characters that are encoded in a fragment. -/
def inFragment (c : Char) : Bool := isControl c || [' ', '"', '<', '>', '\x60'].contains c

/-- The characters that are encoded in a query. -/
def inQuery (c : Char) : Bool := isControl c || [' ', '"', '#', '<', '>'].contains c

/-- The characters that are encoded in the query of a special address. -/
def inSpecialQuery (c : Char) : Bool := inQuery c || c = '\''

/-- The characters that are encoded in a path. -/
def inPath (c : Char) : Bool :=
  inQuery c || ['?', '^', '\x60', '\x7b', '\x7d'].contains c

/-- The characters that are encoded in user information. -/
def inUserinfo (c : Char) : Bool :=
  inPath c || ['/', ':', ';', '=', '@', '[', '\\', ']', '|'].contains c

/-- A text with the characters of a set encoded. -/
def percentEncode (set : Char → Bool) (cs : List Char) : List Char :=
  cs.flatMap fun c => if set c then (Text.bytes [c]).flatMap percentByte else [c]

/-- The bytes of a text, with what is percent-encoded decoded. -/
def percentDecode : List Char → List UInt8
  | [] => []
  | '%' :: h :: l :: cs =>
    match Text.hexValue? h, Text.hexValue? l with
    | some h, some l => UInt8.ofNat (16 * h + l) :: percentDecode cs
    | _, _ => Text.bytes ['%'] ++ percentDecode (h :: l :: cs)
  | c :: cs => Text.bytes [c] ++ percentDecode cs

/-! ### The pairs of a query -/

/-- The bytes that stand for themselves in the name or the value of a pair. -/
def isPlainInPair (n : Nat) : Bool :=
  (48 ≤ n && n ≤ 57) || (65 ≤ n && n ≤ 90) || (97 ≤ n && n ≤ 122) ||
    n = 42 || n = 45 || n = 46 || n = 95

/-- The name or the value of a pair in its encoding. -/
def pairEncode (cs : List Char) : List Char :=
  (Text.bytes cs).flatMap fun b =>
    if b = 32 then ['+'] else if isPlainInPair b.toNat then [Char.ofNat b.toNat] else percentByte b

/-- The bytes of the name or the value of a pair. -/
def pairDecode (cs : List Char) : List UInt8 :=
  percentDecode (cs.map fun c => if c = '+' then ' ' else c)

/-- Cuts a text at every occurrence of a character. -/
def cutAt (sep : Char) : List Char → List (List Char)
  | [] => [[]]
  | c :: cs =>
    match cutAt sep cs with
    | [] => [[c]]
    | p :: ps => if c = sep then [] :: p :: ps else (c :: p) :: ps

/-- The names of the pairs of a query. -/
def pairNames (query : List Char) : List (List UInt8) :=
  ((cutAt '&' query).filter fun p => !p.isEmpty).map fun p => pairDecode (p.takeWhile (· ≠ '='))

end Scenarist.Url
