/-!
# Ink

Text that is set off on a terminal: in a colour, in bold or dimmed. Without colours it is the text
itself.
-/

namespace Scenarist

/-- How a text is set off. -/
inductive Ink where
  | none
  | green
  | yellow
  | cyan
  | bold
  | dim
  | alarm
deriving DecidableEq, Repr

namespace Ink

/-- What switches an ink on. -/
def opening : Ink → String
  | none => ""
  | green => "\x1b[32m"
  | yellow => "\x1b[33m"
  | cyan => "\x1b[36m"
  | bold => "\x1b[1m"
  | dim => "\x1b[2m"
  | alarm => "\x1b[1m\x1b[31m"

/-- What switches every ink off. -/
def closing : String := "\x1b[0m"

/-- A text in an ink, if there are colours. -/
def paint (colours : Bool) (ink : Ink) (text : String) : String :=
  if colours && ink != none then ink.opening ++ text ++ closing else text

/-- Pieces of text, each in its ink. -/
def paintAll (colours : Bool) (pieces : List (Ink × String)) : String :=
  String.join (pieces.map fun (ink, text) => ink.paint colours text)

end Ink

end Scenarist
