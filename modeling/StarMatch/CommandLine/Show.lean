import StarMatch.CommandLine.Match
import StarMatch.Matcher.Layout

/-!
# Showing patterns from the command line

A table sums up a pattern or a matcher, and its whole structure follows unless less output is asked
for.
-/

namespace StarMatch.CommandLine

namespace Invocation

/-- The structure of a value, printed below a table unless less output is asked for. -/
def structurePieces (i : Invocation) (layout : Text.Layout) : List Piece :=
  if i.quiet then [] else [.text ("\n" ++ layout.indented 0 ++ "\n")]

/-- The pattern of an invocation. -/
def onlyPattern (i : Invocation) : Except Failure (Pattern UInt8) :=
  match i.operands with
  | [] => .error ⟨"missing pattern, see -h for usage", none⟩
  | text :: _ => i.readPattern text

/-- Shows the pattern of an invocation. -/
def runShowPattern (i : Invocation) : Outcome :=
  match i.onlyPattern with
  | .error e => .failed e
  | .ok p =>
    let rows := table
      [("parse time", .duration), ("tokens", .ofNat p.length), ("atoms", .ofNat p.atoms.length),
        ("minimum length", .ofNat p.minLength), ("has repetition", .ofBool p.hasRepetition),
        ("is literal", .ofBool p.isLiteral),
        ("prefilter", .ofBool (Prefilter.ofPattern? p).isSome)]
    ⟨rows ++ i.structurePieces (Token.layoutList p.tokens), .ok true⟩

/-- Shows the matcher compiled from the pattern of an invocation. -/
def runShowMatcher (i : Invocation) : Outcome :=
  match i.onlyPattern with
  | .error e => .failed e
  | .ok p =>
    let m := Matcher.ofPattern i.settings p
    let rows := table
      [("build time", .duration), ("strategy", .ofName m.strategy.kind.name),
        ("memory", .ofNat m.memory)]
    ⟨rows ++ i.structurePieces m.layout, .ok true⟩

end Invocation

end StarMatch.CommandLine
