/-!
# Failures

What stops a run of the program: a message, and the cause behind it if the message only says where
it arose.
-/

namespace StarMatch.CommandLine

/-- A message and its cause. -/
structure Failure where
  message : String
  cause? : Option String := none
  deriving DecidableEq, Repr

namespace Failure

/-- The message and its cause on one line. -/
def brief (f : Failure) : String :=
  match f.cause? with
  | none => f.message
  | some cause => f.message ++ ": " ++ cause

/-- The message, and its cause in a paragraph of its own. -/
def detailed (f : Failure) : String :=
  match f.cause? with
  | none => f.message
  | some cause => f.message ++ "\n\nCaused by:\n    " ++ cause

end Failure

end StarMatch.CommandLine
