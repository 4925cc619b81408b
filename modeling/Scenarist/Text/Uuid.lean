/-!
# Unique ids

The text of a random unique id: sixteen bytes in hexadecimal digits, in five groups. Four bits tell
that the id is random and two more tell the layout.
-/

namespace Scenarist.Text

/-- The two hexadecimal digits of a byte. -/
def hexByte (n : Nat) : List Char := [Nat.digitChar (n / 16 % 16), Nat.digitChar (n % 16)]

/-- The bytes with the version 4 and the variant 1 in them. -/
def markedBytes (bytes : List Nat) : List Nat :=
  bytes.mapIdx fun i b =>
    if i = 6 then 64 + b % 16 else if i = 8 then 128 + b % 64 else b % 256

/-- The text of the random id with the given sixteen bytes. -/
def uuid (bytes : List Nat) : String :=
  let bytes := markedBytes bytes
  let group (start count : Nat) : List Char := ((bytes.drop start).take count).flatMap hexByte
  String.ofList (List.intercalate ['-']
    [group 0 4, group 4 2, group 6 2, group 8 2, group 10 6])

end Scenarist.Text
