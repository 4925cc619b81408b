import Scenarist.Decimal.Notation

/-!
# Spans of time

The text of a span that is a number of milliseconds: in seconds from one second on, with as
many places as it takes, and in milliseconds below. With two places only, what is rounded is the
number of seconds in floating point.
-/

namespace Scenarist.Time

/-- The text of a span of milliseconds. -/
def spanText (ms : Nat) : String :=
  if ms = 0 then "0ns"
  else if ms < 1000 then Decimal.natText ms ++ "ms"
  else String.ofList (Decimal.positional (Decimal.stripped 3 ⟨ms, -3⟩)) ++ "s"

/-- The number of seconds in a span of milliseconds. The whole seconds and the rest, which is
counted in nanoseconds, are rounded apart, and so is their sum. -/
def seconds (ms : Nat) : Double :=
  let rest : Double := (Binary.ofNat (ms % 1000 * 1000000)).div (.ofNat 1000000000)
  (Binary.ofNat (ms / 1000)).add rest

/-- The text of a span of milliseconds in seconds with two places. -/
def secondsText (ms : Nat) : String :=
  let (num, den) := (seconds ms).ratio
  Decimal.twoPlaces num den ++ "s"

end Scenarist.Time
