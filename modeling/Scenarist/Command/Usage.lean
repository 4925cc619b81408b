import Scenarist.Command.Parameter

/-!
# Mistakes on the command line

Why a command line was not understood, and the words for it. What was wrong is set off from the
rest.
-/

namespace Scenarist.Command

/-- Why a command line was not understood. -/
inductive UsageError where
  | unknownArgument (argument : String)
  | unknownCommand (name : String)
  | missingCommand (path : String)
  /-- Parameters that have to be given were not. -/
  | missingParameters (labels : List String)
  | missingValue (label : String)
  | invalidValue (value label : String) (choices : List String)
  | needlessValue (value label : String)
  | repeated (label : String)
deriving DecidableEq, Repr

namespace UsageError

/-- The words for a mistake, without what can be done about it. -/
def pieces : UsageError → List (Ink × String)
  | .unknownArgument a => [(.none, "unexpected argument '"), (.yellow, a), (.none, "' found")]
  | .unknownCommand n => [(.none, "unrecognized subcommand '"), (.yellow, n), (.none, "'")]
  | .missingCommand p =>
    [(.none, "'"), (.yellow, p), (.none, "' requires a subcommand but one was not provided")]
  | .missingParameters labels =>
    (.none, "the following required arguments were not provided:") ::
      labels.flatMap fun l => [(.none, "\n  "), (.green, l)]
  | .missingValue l =>
    [(.none, "a value is required for '"), (.yellow, l), (.none, "' but none was supplied")]
  | .invalidValue v l choices =>
    [(.none, "invalid value '"), (.yellow, v), (.none, "' for '"), (.bold, l),
      (.none, "'\n  [possible values: " ++ ", ".intercalate choices ++ "]")]
  | .needlessValue v l =>
    [(.none, "unexpected value '"), (.yellow, v), (.none, "' for '"), (.bold, l),
      (.none, "' found; no more were expected")]
  | .repeated l =>
    [(.none, "the argument '"), (.yellow, l), (.none, "' cannot be used multiple times")]

/-- The report of a mistake. -/
def report (colours : Bool) (e : UsageError) : String :=
  Ink.paintAll colours ((.alarm, "error:") :: (.none, " ") :: e.pieces ++
    [(.none, "\n\nFor more information, try '"), (.bold, "--help"), (.none, "'.\n")])

end UsageError

end Scenarist.Command
