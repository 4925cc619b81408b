import Scenarist.Failure
import Scenarist.Files.Tree

/-!
# Trouble

What a command reports when it fails: what it was about, and below it the causes, from the most
general to the particular.
-/

namespace Scenarist

/-- What went wrong, and why. -/
structure Trouble where
  headline : String
  causes : List String
deriving DecidableEq, Repr

namespace Trouble

/-- A cause that stands for itself. -/
def plain (headline : String) : Trouble := ⟨headline, []⟩

/-- What went wrong, with its causes on the same line. -/
def text (t : Trouble) : String := ": ".intercalate (t.headline :: t.causes)

/-- The result of a file operation, a failure being reported under a headline. -/
def ofFile {α : Type} (headline : String) : Except FileError α → Except Trouble α
  | .ok a => .ok a
  | .error e => .error ⟨headline, [e.message]⟩

/-- A result, a failure being reported under a headline. -/
def ofFailure {α : Type} (headline : String) : Except Failure α → Except Trouble α
  | .ok a => .ok a
  | .error e => .error ⟨headline, [e.message]⟩

end Trouble

end Scenarist
