import Scenarist.Time.Instant
import Scenarist.Text.Blank

/-!
# Reading instants

An instant is read from a date, a separator (`T`, `t` or a space), a time and an offset from
UTC. Blanks may stand before every number and sign of the date and time, the fraction of a
second may have any number of digits of which nine count, and a year may have a sign and then
any number of digits.
-/

namespace Scenarist.Time

/-- Why a text is no instant. -/
inductive Fault where
  | outOfRange
  | invalid
  | tooShort
  | tooLong
deriving DecidableEq, Repr

/-- The wording of a fault. -/
def Fault.message : Fault → String
  | .outOfRange => "input is out of range"
  | .invalid => "input contains invalid characters"
  | .tooShort => "premature end of input"
  | .tooLong => "trailing input"

/-- The value of a digit. -/
def digit (c : Char) : Nat := c.toNat - 48

/-- Reads at most `most` digits onto `n`; the first must be there if `first` is set. -/
def digits (n : Nat) (first : Bool) : Nat → List Char → Except Fault (Nat × List Char)
  | 0, cs => .ok (n, cs)
  | _ + 1, [] => if first then .error .tooShort else .ok (n, [])
  | most + 1, c :: cs =>
    if c.isDigit then
      let next := 10 * n + digit c
      if next < Nat.pow 2 63 then digits next false most cs else .error .outOfRange
    else if first then .error .invalid
    else .ok (n, c :: cs)

/-- A number of one to `most` digits, blanks before it allowed. -/
def number (most : Nat) (cs : List Char) : Except Fault (Nat × List Char) :=
  digits 0 true most (Text.trimStart cs)

/-- A number in a range. -/
def numberIn (low high : Nat) (cs : List Char) : Except Fault (Nat × List Char) := do
  let (n, cs) ← number 2 cs
  if low ≤ n && n ≤ high then return (n, cs) else throw .outOfRange

/-- A year: four digits at most, or a sign and any number of digits. -/
def year (cs : List Char) : Except Fault (Int × List Char) := do
  let cs := Text.trimStart cs
  let (n, cs) ← match cs with
    | '-' :: rest => do
      let (n, rest) ← digits 0 true rest.length.succ rest
      pure (-(n : Int), rest)
    | '+' :: rest => do
      let (n, rest) ← digits 0 true rest.length.succ rest
      pure ((n : Int), rest)
    | cs => do
      let (n, rest) ← digits 0 true 4 cs
      pure ((n : Int), rest)
  if -(Nat.pow 2 31 : Int) ≤ n && n < Nat.pow 2 31 then return (n, cs) else throw .outOfRange

/-- A sign that must come next, blanks before it allowed. -/
def sign (c : Char) (cs : List Char) : Except Fault (List Char) :=
  match Text.trimStart cs with
  | [] => .error .tooShort
  | d :: rest => if d = c then .ok rest else .error .invalid

/-- The nanoseconds after a point, if there is one. -/
def fraction (cs : List Char) : Except Fault (Nat × List Char) :=
  match cs with
  | '.' :: rest => do
    let (n, after) ← digits 0 true 9 rest
    let count := rest.length - after.length
    return (n * Nat.pow 10 (9 - count), after.dropWhile Char.isDigit)
  | cs => .ok (0, cs)

/-- Two digits of an offset. -/
def twoDigits : List Char → Except Fault ((Nat × Nat) × List Char)
  | a :: b :: rest =>
    if a.isDigit && b.isDigit then .ok ((digit a, digit b), rest) else .error .invalid
  | [a] => if a.toNat < 128 then .error .tooShort else .error .invalid
  | [] => .error .tooShort

/-- Seconds east of UTC. -/
def offset (cs : List Char) : Except Fault (Int × List Char) := do
  match cs with
  | 'Z' :: rest => return (0, rest)
  | 'z' :: rest => return (0, rest)
  | [] => throw .tooShort
  | c :: rest =>
    let west ← if c = '+' then pure false else if c = '-' || c = '\u2212' then pure true
      else throw .invalid
    let ((h, k), rest) ← twoDigits rest
    let rest := rest.dropWhile fun c => c == ':' || Text.isBlank c
    let ((m, n), rest) ← twoDigits rest
    if 6 ≤ m then throw .outOfRange
    let seconds : Int := ((10 * h + k) * 3600 + (10 * m + n) * 60 : Nat)
    return (if west then -seconds else seconds, rest)

/-- The text starts with the letters "UTC" in either case. -/
def dropUtc? : List Char → Option (List Char)
  | u :: t :: c :: rest =>
    if u.toUpper = 'U' && t.toUpper = 'T' && c.toUpper = 'C' then some rest else none
  | _ => none

/-- The years that have a day number. -/
def yearInRange (y : Int) : Bool := -262143 ≤ y && y ≤ 262142

/-- Reads an instant; its offset is taken off, so that the result is in UTC. -/
def readInstant (cs : List Char) : Except Fault Instant := do
  let (y, cs) ← year cs
  let cs ← sign '-' cs
  let (month, cs) ← numberIn 1 12 cs
  let cs ← sign '-' cs
  let (day, cs) ← numberIn 1 31 cs
  let cs ← match cs with
    | [] => throw .tooShort
    | c :: rest => if c = 'T' || c = 't' || c = ' ' then pure rest else throw .invalid
  let (hour, cs) ← numberIn 0 23 cs
  let cs ← sign ':' cs
  let (minute, cs) ← numberIn 0 59 cs
  let cs ← sign ':' cs
  let (second, cs) ← numberIn 0 60 cs
  let (nano, cs) ← fraction cs
  let cs := Text.trimStart cs
  let (east, cs) ← match dropUtc? cs with
    | some rest => pure ((0 : Int), rest)
    | none => offset cs
  if !(Text.trimStart cs).isEmpty then throw .tooLong
  if !yearInRange y || daysInMonth y month < day then throw .outOfRange
  if 86400 ≤ east.natAbs then throw .outOfRange
  let leap := second = 60
  let seconds : Int := (hour * 3600 + minute * 60 + (if leap then 59 else second) : Nat)
  let utc := seconds - east
  let dayNumber := Date.dayNumber ⟨y, month, day⟩ + utc / 86400
  return ⟨dayNumber, (utc % 86400).toNat, if leap then nano + 1000000000 else nano⟩

end Scenarist.Time

namespace Scenarist.Instant

/-- The instant a text stands for. -/
def read (s : String) : Except Time.Fault Instant := Time.readInstant s.toList

end Scenarist.Instant
