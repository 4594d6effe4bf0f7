import StarMatch.Text.ByteLiteral

/-!
# Why a pattern is rejected

A pattern is malformed when one of its stars has nothing to repeat. The choice of reserved symbols
is rejected, whatever the pattern, when the two cannot be told apart or one is not ASCII.
-/

namespace StarMatch

/-- The reasons for which no pattern can be built. -/
inductive PatternError where
  /-- The first token is a star. -/
  | leadingRepetition
  /-- The token at `offset` is a star that follows another star. -/
  | repeatedRepetition (offset : Nat)
  /-- Wildcard and repetition are the same symbol. -/
  | reservedConflict (symbol : UInt8)
  /-- A reserved symbol is not ASCII. -/
  | nonAsciiReserved (symbol : UInt8)
  deriving DecidableEq, Repr

namespace PatternError

/-- The offset of the offending token, where a token is to blame. -/
def offset? : PatternError → Option Nat
  | leadingRepetition => some 0
  | repeatedRepetition offset => some offset
  | reservedConflict _ | nonAsciiReserved _ => none

/-- Whether the pattern, and not the choice of reserved symbols, is to blame. -/
def isMalformed : PatternError → Bool
  | leadingRepetition | repeatedRepetition _ => true
  | reservedConflict _ | nonAsciiReserved _ => false

/-- The message shown to a user. -/
def message : PatternError → String
  | leadingRepetition =>
    "malformed pattern: repetition at offset 0 has no preceding atom to repeat"
  | repeatedRepetition offset =>
    "malformed pattern: repetition at offset " ++ toString offset ++
      " directly follows another repetition"
  | reservedConflict symbol =>
    "wildcard and repetition symbols must differ, but both are " ++ Text.byteLiteral symbol
  | nonAsciiReserved symbol =>
    "reserved symbol " ++ Text.byteLiteral symbol ++ " is not ASCII"

end PatternError

end StarMatch
