import Scenarist.Url.Percent
import Scenarist.Url.Punycode

/-!
# Hosts

The host of an address is a domain, the number of a computer in one of two forms, or, where the
scheme is unknown, any text.
-/

namespace Scenarist.Url

/-- Why an address is not one. -/
inductive Flaw where
  | relative
  | emptyHost
  | domain
  | hostCharacter
  | port
  | ipv4
  | ipv6
deriving DecidableEq, Repr

/-- The wording of a flaw. -/
def Flaw.message : Flaw → String
  | .relative => "relative URL without a base"
  | .emptyHost => "empty host"
  | .domain => "invalid international domain name"
  | .hostCharacter => "invalid domain character"
  | .port => "invalid port number"
  | .ipv4 => "invalid IPv4 address"
  | .ipv6 => "invalid IPv6 address"

/-- A host. -/
inductive Host where
  | name (text : List Char)
  | ipv4 (address : Nat)
  | ipv6 (pieces : List Nat)
deriving DecidableEq, Repr

/-! ### Numbers with four parts -/

/-- A part of a number: hexadecimal, octal or decimal. -/
def ipv4Part? (cs : List Char) : Option Nat :=
  match cs with
  | [] => none
  | '0' :: 'x' :: rest => Text.numberIn? 16 rest
  | '0' :: 'X' :: rest => Text.numberIn? 16 rest
  | '0' :: d :: rest => Text.numberIn? 8 (d :: rest)
  | cs => Text.numberIn? 10 cs

/-- The parts between points; a point at the end counts for nothing. -/
def pointParts (cs : List Char) : List (List Char) :=
  let parts := cutAt '.' cs
  if 1 < parts.length && parts.getLast? = some [] then parts.dropLast else parts

/-- The domain ends like a number. -/
def endsInNumber (cs : List Char) : Bool :=
  match (pointParts cs).getLast? with
  | some last =>
    !last.isEmpty && (last.all (fun c => 48 ≤ c.toNat && c.toNat ≤ 57) || (ipv4Part? last).isSome)
  | none => false

/-- The parts of a number as one number: each but the last is a byte. -/
def ipv4Value? : List Nat → Nat → Option Nat
  | [], _ => none
  | [last], room => if last < Nat.pow 256 room then some last else none
  | n :: rest, room =>
    if 255 < n || room = 0 then none
    else (ipv4Value? rest (room - 1)).map (n * Nat.pow 256 (room - 1) + ·)

/-- A number with at most four parts. -/
def ipv4? (cs : List Char) : Option Nat := do
  let parts ← (pointParts cs).mapM ipv4Part?
  ipv4Value? parts 4

/-! ### Numbers with eight pieces -/

/-- What has been read of a number: the pieces before the double colon, and those after it if
there has been one. -/
structure Pieces where
  front : List Nat
  back : Option (List Nat)

/-- One more piece. -/
def Pieces.push (p : Pieces) (n : Nat) : Pieces :=
  match p.back with
  | none => { p with front := p.front ++ [n] }
  | some b => { p with back := some (b ++ [n]) }

/-- The number of pieces, a double colon standing for at least one. -/
def Pieces.count (p : Pieces) : Nat :=
  p.front.length + (match p.back with
    | none => 0
    | some b => b.length + 1)

/-- All eight pieces. -/
def Pieces.all? (p : Pieces) : Option (List Nat) :=
  match p.back with
  | none => if p.front.length = 8 then some p.front else none
  | some b => some (p.front ++ List.replicate (8 - p.front.length - b.length) 0 ++ b)

/-- A decimal byte without zeros in front. -/
def byte? (cs : List Char) : Option Nat :=
  match cs with
  | [] => none
  | ['0'] => some 0
  | '0' :: _ => none
  | cs => do
    let n ← Text.numberIn? 10 cs
    if n ≤ 255 then some n else none

/-- Four decimal bytes as two pieces. -/
def bytePieces? (cs : List Char) : Option (Nat × Nat) :=
  match (cutAt '.' cs).mapM byte? with
  | some [a, b, c, d] => some (a * 256 + b, c * 256 + d)
  | _ => none

/-- Reads the pieces of a number. -/
def readPieces : Nat → Pieces → List Char → Option Pieces
  | 0, _, _ => none
  | _ + 1, p, [] => some p
  | fuel + 1, p, ':' :: cs =>
    if p.count = 8 || p.back.isSome then none
    else readPieces fuel { p with back := some [] } cs
  | fuel + 1, p, cs =>
    if p.count = 8 then none
    else
      let piece := (cs.take 4).takeWhile Text.isHexDigit
      match cs.drop piece.length with
      | '.' :: _ =>
        if piece.isEmpty || 6 < p.count then none
        else (bytePieces? cs).map fun (a, b) => (p.push a).push b
      | rest =>
        match Text.numberIn? 16 piece, rest with
        | some n, [] => if piece.isEmpty then none else some (p.push n)
        | some _, [':'] => none
        | some n, ':' :: rest => if piece.isEmpty then none else readPieces fuel (p.push n) rest
        | _, _ => none

/-- A number with eight pieces. -/
def ipv6? (cs : List Char) : Option (List Nat) :=
  let p : Option Pieces := match cs with
    | ':' :: ':' :: rest => readPieces (cs.length + 1) ⟨[], some []⟩ rest
    | ':' :: _ => none
    | cs => readPieces (cs.length + 1) ⟨[], none⟩ cs
  p.bind Pieces.all?

/-- The length of the run of zeros at the start. -/
def zeroRun (pieces : List Nat) : Nat := (pieces.takeWhile (· = 0)).length

/-- The start and the length of the first longest run of zeros. -/
def longestZeroRun (start : Nat) : List Nat → Nat × Nat
  | [] => (start, 0)
  | n :: rest =>
    let here := zeroRun (n :: rest)
    let (later, length) := longestZeroRun (start + 1) rest
    if length ≤ here then (start, here) else (later, length)

/-- The pieces in hexadecimal digits, the longest run of zeros as a double colon. -/
def ipv6Text (pieces : List Nat) : List Char :=
  let text (l : List Nat) := List.intercalate [':'] (l.map fun n => Nat.toDigits 16 n)
  let (start, length) := longestZeroRun 0 pieces
  if length < 2 then text pieces
  else text (pieces.take start) ++ [':', ':'] ++ text (pieces.drop (start + length))

/-! ### Domains -/

/-- The characters that a domain may not have. -/
def isForbiddenInDomain (c : Char) : Bool :=
  c.toNat ≤ 0x20 || c.toNat = 0x7F ||
    ['#', '%', '/', ':', '<', '>', '?', '@', '[', '\\', ']', '^', '|'].contains c

/-- The characters that any other host may not have. -/
def isForbiddenInHost (c : Char) : Bool :=
  ['\x00', '\t', '\n', '\r', ' ', '#', '/', ':', '<', '>', '?', '@', '[', '\\', ']', '^',
    '|'].contains c

/-- The form of a character in a domain: small letters, and nothing for a character that is not
seen. -/
def domainChar (c : Char) : List Char :=
  let n := c.toNat
  if n < 128 then [c.toLower]
  else if n = 0xAD || n = 0x200B || n = 0x2060 || n = 0xFEFF then []
  else if n = 0x3002 || n = 0xFF0E || n = 0xFF61 then ['.']
  else if n = 0xDF then [c]
  else if 0xFF01 ≤ n && n ≤ 0xFF5E then [(Char.ofNat (n - 0xFEE0)).toLower]
  else if (0xC0 ≤ n && n ≤ 0xDE && n ≠ 0xD7) || (0x391 ≤ n && n ≤ 0x3AB) ||
      (0x410 ≤ n && n ≤ 0x42F) then [Char.ofNat (n + 32)]
  else if 0x400 ≤ n && n ≤ 0x40F then [Char.ofNat (n + 80)]
  else if 0x100 ≤ n && n ≤ 0x137 && n % 2 = 0 && n ≠ 0x130 then [Char.ofNat (n + 1)]
  else [c]

/-- A label in its ASCII form. -/
def asciiLabel (cs : List Char) : List Char :=
  if cs.all fun c => c.toNat < 128 then cs else "xn--".toList ++ Punycode.encode cs

/-- A domain in its ASCII form. -/
def asciiDomain (cs : List Char) : List Char :=
  List.intercalate ['.'] ((cutAt '.' (cs.flatMap domainChar)).map asciiLabel)

/-- A host between brackets. -/
def bracketed (cs : List Char) : Except Flaw Host :=
  if cs.getLast? = some ']' then
    match ipv6? cs.dropLast.tail with
    | some pieces => .ok (.ipv6 pieces)
    | none => .error .ipv6
  else .error .ipv6

/-- The host of an address whose scheme is known. -/
def specialHost (cs : List Char) : Except Flaw Host :=
  if cs.head? = some '[' then bracketed cs
  else
    match Text.ofUtf8? (percentDecode cs) with
    | none => .error .domain
    | some decoded =>
      let domain := asciiDomain decoded
      if domain.any isForbiddenInDomain then .error .domain
      else if domain.isEmpty then .error .emptyHost
      else if endsInNumber domain then
        match ipv4? domain with
        | some n => .ok (.ipv4 n)
        | none => .error .ipv4
      else .ok (.name domain)

/-- The host of an address whose scheme is not known. -/
def otherHost (cs : List Char) : Except Flaw Host :=
  if cs.head? = some '[' then bracketed cs
  else if cs.any isForbiddenInHost then .error .hostCharacter
  else .ok (.name (percentEncode isControl cs))

/-- The host of a file: none, which is also how the computer itself is written. -/
def fileHost (cs : List Char) : Except Flaw Host := do
  if cs.isEmpty then return .name []
  let h ← specialHost cs
  return if h = .name "localhost".toList then .name [] else h

/-- The text of a host. -/
def Host.text : Host → List Char
  | .name cs => cs
  | .ipv4 n => List.intercalate ['.']
      ([n / Nat.pow 256 3, n / Nat.pow 256 2 % 256, n / 256 % 256, n % 256].map fun p =>
        Nat.toDigits 10 p)
  | .ipv6 pieces => '[' :: ipv6Text pieces ++ [']']

end Scenarist.Url
