/-!
# Panics

Some calls stop the caller instead of returning an error. What such a stop carries is shown to the
user if it is text, and cannot be shown otherwise.
-/

namespace StarMatch

/-- What a stopped computation carries. -/
inductive Panic where
  /-- A message. -/
  | text (message : String)
  /-- Something that cannot be shown. -/
  | unshowable
  deriving DecidableEq, Repr

end StarMatch
