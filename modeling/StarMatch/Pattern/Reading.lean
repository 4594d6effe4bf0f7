import StarMatch.Pattern.Basic

/-!
# Reading patterns

A written pattern has two reserved symbols, the wildcard and the repetition; every other symbol
stands for itself, and there are no escapes. Texts are read character by character or byte by byte,
by the same rule. The reserved symbols must be ASCII and different, which is checked before the
text is looked at.
-/

namespace StarMatch

universe u

/-- The choice of reserved symbols, where a symbol that is not set has its default. -/
structure ReservedSymbols where
  wildcard? : Option UInt8 := none
  repetition? : Option UInt8 := none
  deriving DecidableEq, Repr, Inhabited

namespace ReservedSymbols

/-- The wildcard, a full stop by default. -/
def wildcard (r : ReservedSymbols) : UInt8 :=
  r.wildcard?.getD 0x2E

/-- The repetition symbol, an asterisk by default. -/
def repetition (r : ReservedSymbols) : UInt8 :=
  r.repetition?.getD 0x2A

/-- The choice in which whatever `top` sets replaces what `base` sets. -/
def overlay (base top : ReservedSymbols) : ReservedSymbols where
  wildcard? := top.wildcard?.or base.wildcard?
  repetition? := top.repetition?.or base.repetition?

/-- The wildcard and the repetition symbol, if texts can be read with them. -/
def checked (r : ReservedSymbols) : Except PatternError (UInt8 × UInt8) :=
  if 0x80 ≤ r.wildcard then .error (.nonAsciiReserved r.wildcard)
  else if 0x80 ≤ r.repetition then .error (.nonAsciiReserved r.repetition)
  else if r.wildcard = r.repetition then .error (.reservedConflict r.wildcard)
  else .ok (r.wildcard, r.repetition)

end ReservedSymbols

/-- The token that a symbol spells. -/
def Token.ofSymbol {σ : Type u} [BEq σ] (wildcard repetition symbol : σ) : Token σ :=
  if symbol == wildcard then .any
  else if symbol == repetition then .star
  else .lit symbol

namespace Pattern

/-- The pattern over bytes that a text spells. -/
def ofBytes (reserved : ReservedSymbols) (text : List UInt8) :
    Except PatternError (Pattern UInt8) :=
  match reserved.checked with
  | .error e => .error e
  | .ok (wildcard, repetition) => ofTokens (text.map (Token.ofSymbol wildcard repetition))

/-- The pattern over characters that a text spells. -/
def ofChars (reserved : ReservedSymbols) (text : List Char) :
    Except PatternError (Pattern Char) :=
  match reserved.checked with
  | .error e => .error e
  | .ok (wildcard, repetition) =>
    ofTokens (text.map (Token.ofSymbol (Char.ofUInt8 wildcard) (Char.ofUInt8 repetition)))

end Pattern

end StarMatch
