import StarMatch.CommandLine.Invocation
import StarMatch.CommandLine.Output
import StarMatch.Matcher.Basic

/-!
# Matching from the command line

The first operand is a pattern and the others are haystacks, which are searched in order with one
cache. Each search prints an answer of its own, and a search that is refused ends the run.
-/

namespace StarMatch.CommandLine

namespace Invocation

/-- The pattern that a text spells with the invocation's reserved symbols. -/
def readPattern (i : Invocation) (text : String) : Except Failure (Pattern UInt8) :=
  (Pattern.ofBytes i.reserved (Text.Utf8.encode text.toList)).mapError fun e =>
    ⟨"failed to parse pattern '" ++ text ++ "'", some e.message⟩

/-- What is printed about one haystack. -/
def answerLine (i : Invocation) (haystack : String) (isMatch : Bool) : List Piece :=
  let answer := (if isMatch then "yes" else "no") ++ "\t" ++ haystack
  if i.quiet then []
  else if i.verbose then [.text (answer ++ "\t"), .duration, .text "\n"]
  else [.text (answer ++ "\n")]

/-- Searches haystacks in order, given whether all of those before them matched. -/
def searchAll (i : Invocation) (m : Matcher) : MatcherCache → Bool → List String → Outcome
  | _, all, [] => ⟨[], .ok all⟩
  | cache, all, haystack :: haystacks =>
    let outcome := m.search cache (Text.Utf8.encode haystack.toList)
    match outcome.verdict with
    | .error e => .failed ⟨e.message, none⟩
    | .ok isMatch =>
      (searchAll i m outcome.cache (all && isMatch) haystacks).prepend
        (i.answerLine haystack isMatch)

/-- The table about a compiled pattern, printed where more output is asked for. -/
def buildTable (i : Invocation) (m : Matcher) : List Piece :=
  if i.verbose then
    table [("build time", .duration), ("strategy", .ofName m.strategy.kind.name)]
  else []

/-- Matches the haystacks of an invocation against its pattern. -/
def runMatch (i : Invocation) : Outcome :=
  match i.operands with
  | [] => .failed ⟨"missing pattern, see -h for usage", none⟩
  | [_] => .failed ⟨"at least one haystack must be given", none⟩
  | text :: haystacks =>
    match i.readPattern text with
    | .error e => .failed e
    | .ok p =>
      let m := Matcher.ofPattern i.settings p
      (i.searchAll m {} true haystacks).prepend (i.buildTable m)

end Invocation

end StarMatch.CommandLine
