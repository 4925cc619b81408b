import Scenarist.Json.Document

/-!
# The Grammar of JSON Texts

What a JSON text is, said without the scanner and the reader: the grammar of the format, production
by production. A value is one of the three words, a number, a string literal, an array or an
object, and only the four characters of `isSpace` may stand around the signs.

The grammar says at the same time what a text stands for: `Spells d cs` holds if `cs` is a value
and spells the document `d`. The form of numbers and literals is that of the grammar, and only what
they stand for is taken over from the scanner (`numberValue`, `literalValue`).

Nothing is asked of the depth of a value, of the size of a number, or of the halves of surrogate
pairs. A document keeps such values as what they are, and it is for its readers to refuse them.

## Main definitions

* `Spells`, `SpellsText`: **the text is a value, and a JSON text**.
* `IsObject`: **the text is an object**, from its first brace to the last one.
-/

namespace Scenarist.Json

/-- The text is made of blanks. -/
def Blanks (cs : List Char) : Prop := cs.all isSpace = true

/-! ### Numbers -/

/-- The text is made of digits, one or more. -/
def Digits (cs : List Char) : Prop := cs ≠ [] ∧ cs.all Char.isDigit = true

/-- The text is a **fraction**: a point and digits, or nothing. -/
inductive Fraction : List Char → Prop where
  | none : Fraction []
  | some {ds : List Char} (h : Digits ds) : Fraction ('.' :: ds)

/-- The text is an **exponent**: a letter, a sign that may be missing, and digits; or nothing. -/
inductive Exponent : List Char → Prop where
  | none : Exponent []
  | some {e : Char} {sign ds : List Char} (he : e = 'e' ∨ e = 'E')
      (hsign : sign = [] ∨ sign = ['+'] ∨ sign = ['-']) (h : Digits ds) :
      Exponent (e :: (sign ++ ds))

/-- The text is a **number**. Its whole part is a zero, or does not begin with one. -/
inductive IsNumber : List Char → Prop where
  | mk {sign whole fraction exponent : List Char} (hsign : sign = [] ∨ sign = ['-'])
      (hwhole : Digits whole) (hzero : whole = ['0'] ∨ whole.head? ≠ some '0')
      (hfraction : Fraction fraction) (hexponent : Exponent exponent) :
      IsNumber (sign ++ (whole ++ (fraction ++ exponent)))

/-- What a number stands for; nothing beyond the largest one. -/
def numberValue (cs : List Char) : Option Number := (numberToken cs).bind Prod.fst

/-! ### String literals -/

/-- The text is the **inside of a literal**: characters other than quotes, backslashes and controls,
and escapes. -/
inductive LiteralBody : List Char → Prop where
  | nil : LiteralBody []
  | plain {c : Char} {cs : List Char} (hquote : c ≠ '"') (hslash : c ≠ '\\')
      (hcontrol : 32 ≤ c.toNat) (h : LiteralBody cs) : LiteralBody (c :: cs)
  | escape {c : Char} {cs : List Char} (hc : c ∈ "\"\\/bfnrt".toList) (h : LiteralBody cs) :
      LiteralBody ('\\' :: c :: cs)
  | code {x y z t : Char} {cs : List Char} (hdigits : [x, y, z, t].all Text.isHexDigit = true)
      (h : LiteralBody cs) : LiteralBody ('\\' :: 'u' :: x :: y :: z :: t :: cs)

/-- What a literal with the given inside stands for; nothing if half of a surrogate pair stands
alone in it. -/
def literalValue (body : List Char) : Option String :=
  (stringToken (body ++ ['"'])).bind Prod.fst

/-! ### Values -/

/-- The text before a colon is the key of a member, with blanks around it. -/
inductive SpellsKey : Option String → List Char → Prop where
  | mk {w body u : List Char} (hw : Blanks w) (h : LiteralBody body) (hu : Blanks u) :
      SpellsKey (literalValue body) (w ++ '"' :: (body ++ '"' :: u))

mutual

/-- The text is a **value** and spells the document. -/
inductive Spells : Document → List Char → Prop where
  | null : Spells .null "null".toList
  | bool (b : Bool) : Spells (.bool b) (if b then "true" else "false").toList
  | number {cs : List Char} (h : IsNumber cs) : Spells (.number (numberValue cs)) cs
  | string {body : List Char} (h : LiteralBody body) :
      Spells (.string (literalValue body)) ('"' :: (body ++ ['"']))
  | emptyArray {w : List Char} (hw : Blanks w) : Spells (.array [] true) ('[' :: (w ++ [']']))
  | array {items : List Document} {cs : List Char} (h : SpellsItems items cs) :
      Spells (.array items true) ('[' :: (cs ++ [']']))
  | emptyObject {w : List Char} (hw : Blanks w) :
      Spells (.object [] true) ('\x7b' :: (w ++ ['\x7d']))
  | object {members : List (Option String × Document)} {cs : List Char}
      (h : SpellsMembers members cs) : Spells (.object members true) ('\x7b' :: (cs ++ ['\x7d']))

/-- The text is a **JSON text** and spells the document: a value with blanks around it. -/
inductive SpellsText : Document → List Char → Prop where
  | mk {d : Document} {w cs u : List Char} (hw : Blanks w) (h : Spells d cs) (hu : Blanks u) :
      SpellsText d (w ++ (cs ++ u))

/-- The text spells the items of an array, one or more. -/
inductive SpellsItems : List Document → List Char → Prop where
  | one {d : Document} {cs : List Char} (h : SpellsText d cs) : SpellsItems [d] cs
  | cons {d : Document} {ds : List Document} {cs rest : List Char} (h : SpellsText d cs)
      (hrest : SpellsItems ds rest) : SpellsItems (d :: ds) (cs ++ ',' :: rest)

/-- The text spells the members of an object, one or more. -/
inductive SpellsMembers : List (Option String × Document) → List Char → Prop where
  | one {k : Option String} {d : Document} {key cs : List Char} (hkey : SpellsKey k key)
      (h : SpellsText d cs) : SpellsMembers [(k, d)] (key ++ ':' :: cs)
  | cons {k : Option String} {d : Document} {ms : List (Option String × Document)}
      {key cs rest : List Char} (hkey : SpellsKey k key) (h : SpellsText d cs)
      (hrest : SpellsMembers ms rest) :
      SpellsMembers ((k, d) :: ms) (key ++ ':' :: (cs ++ ',' :: rest))

end

/-- The text is an **object**, from its first brace to the last one. -/
def IsObject (cs : List Char) : Prop := ∃ members, Spells (.object members true) cs

end Scenarist.Json
