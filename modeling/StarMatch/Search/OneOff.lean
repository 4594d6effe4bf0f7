import StarMatch.Search.Backtrack

/-!
# One-off matches

A written pattern can be matched against a text without keeping anything: both are taken character
by character, the reserved symbols are the default ones, and the backtracker decides. There is no limit,
so a match stops its caller where there cannot be room for its table.
-/

namespace StarMatch

/-- Whether a written pattern matches a whole text. -/
def matchText (text pattern : List Char) :
    Except PatternError (Except Panic (Outcome Backtracker.Cache)) :=
  (Pattern.ofChars {} pattern).map fun p =>
    (Backtracker.ofPattern {} p).searchInRoom {} (.ofList text)

end StarMatch
