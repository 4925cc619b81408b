import Scenarist.Decimal.Notation

/-!
# Instants

A point in time in UTC: a day of the civil calendar counted from 1970-01-01, a second of that
day, and nanoseconds. A leap second is the last second of its day with a thousand million
nanoseconds more. The calendar is the Gregorian one in both directions.
-/

namespace Scenarist.Time

/-- A year, a month and a day of the Gregorian calendar. -/
structure Date where
  year : Int
  month : Nat
  day : Nat
deriving DecidableEq, Repr

/-- The year has a 29 February. -/
def isLeap (year : Int) : Bool := year % 4 == 0 && (year % 100 != 0 || year % 400 == 0)

/-- The number of days of a month. -/
def daysInMonth (year : Int) (month : Nat) : Nat :=
  if month = 2 then (if isLeap year then 29 else 28)
  else if month = 4 || month = 6 || month = 9 || month = 11 then 30
  else 31

/-- Days from 1970-01-01; years are counted from March, so that a leap day ends its year. -/
def Date.dayNumber (d : Date) : Int :=
  let y := if d.month ≤ 2 then d.year - 1 else d.year
  let era := y / 400
  let yearOfEra := y % 400
  let monthFromMarch : Int := ((d.month + 9) % 12 : Nat)
  let dayOfYear := (153 * monthFromMarch + 2) / 5 + d.day - 1
  era * 146097 + yearOfEra * 365 + yearOfEra / 4 - yearOfEra / 100 + dayOfYear - 719468

/-- The date of a day number. -/
def dateOf (dayNumber : Int) : Date :=
  let z := dayNumber + 719468
  let era := z / 146097
  let dayOfEra := z % 146097
  let yearOfEra := (dayOfEra - dayOfEra / 1460 + dayOfEra / 36524 - dayOfEra / 146096) / 365
  let dayOfYear := dayOfEra - (365 * yearOfEra + yearOfEra / 4 - yearOfEra / 100)
  let monthFromMarch := (5 * dayOfYear + 2) / 153
  let day := dayOfYear - (153 * monthFromMarch + 2) / 5 + 1
  let month := if monthFromMarch < 10 then monthFromMarch + 3 else monthFromMarch - 9
  let year := yearOfEra + era * 400
  ⟨if month ≤ 2 then year + 1 else year, month.toNat, day.toNat⟩

end Scenarist.Time

namespace Scenarist

/-- A point in time in UTC. -/
structure Instant where
  /-- Days from 1970-01-01. -/
  day : Int
  /-- Seconds from midnight. -/
  second : Nat
  /-- Nanoseconds, beyond a thousand million in a leap second. -/
  nano : Nat
deriving DecidableEq, Repr, Inhabited

namespace Instant

/-- The instant that is a number of nanoseconds from the beginning of 1970. -/
def ofNanoseconds (n : Int) : Instant where
  day := n / 86400000000000
  second := (n % 86400000000000 / 1000000000).toNat
  nano := (n % 1000000000).toNat

/-- How many digits the fraction of a second is written with. -/
inductive Precision where
  /-- Three digits, always. -/
  | millis
  /-- No digits, three, six or nine, as few as show the nanoseconds. -/
  | fewest
deriving DecidableEq, Repr

/-- A number with zeros in front up to the given width. -/
def padded (width n : Nat) : List Char :=
  let digits := Decimal.digitChars n
  List.replicate (width - digits.length) '0' ++ digits

/-- A year as four digits, with a sign where four do not suffice. -/
def yearText (year : Int) : List Char :=
  if 0 ≤ year && year ≤ 9999 then padded 4 year.toNat
  else (if year < 0 then '-' else '+') :: padded 4 year.natAbs

/-- The digits of a fraction of a second, after a point. -/
def fractionText (precision : Precision) (nano : Nat) : List Char :=
  match precision with
  | .millis => '.' :: padded 3 (nano / 1000000)
  | .fewest =>
    if nano = 0 then []
    else if nano % 1000000 = 0 then '.' :: padded 3 (nano / 1000000)
    else if nano % 1000 = 0 then '.' :: padded 6 (nano / 1000)
    else '.' :: padded 9 nano

/-- The instant in the profile of RFC 3339, in UTC. -/
def render (precision : Precision) (t : Instant) : List Char :=
  let date := Time.dateOf t.day
  let leap := 1000000000 ≤ t.nano
  let second := t.second % 60 + (if leap then 1 else 0)
  let nano := if leap then t.nano - 1000000000 else t.nano
  yearText date.year ++ '-' :: padded 2 date.month ++ '-' :: padded 2 date.day ++
    'T' :: padded 2 (t.second / 3600) ++ ':' :: padded 2 (t.second / 60 % 60) ++
    ':' :: padded 2 second ++ fractionText precision nano ++ ['Z']

/-- The text of an instant, with as few digits of the second as show it. -/
def text (t : Instant) : String := String.ofList (t.render .fewest)

end Instant

end Scenarist
