import StarMatch.Log
import StarMatch.Pattern.Basic

/-!
# Prefilters

A prefilter is a cheap necessary condition. The literals of the atoms that are not repeated must
appear in the haystack in their order, the haystack must have a symbol for each atom that is not
repeated, and where no atom is repeated it must have exactly one for each token.
-/

namespace StarMatch

/-- What a haystack must have to match a pattern over bytes. -/
structure Prefilter where
  /-- The literals that must appear, in order. -/
  needles : List UInt8
  /-- The least length. -/
  minLength : Nat
  /-- The only length, where there is just one. -/
  exactLength? : Option Nat
  deriving DecidableEq, Repr

namespace Prefilter

/-- The literals of the atoms that are not repeated. -/
def requiredLiterals (p : Pattern UInt8) : List UInt8 :=
  (p.atoms.filter fun a => !a.repeated).filterMap fun a => a.token.literal?

/-- The prefilter of a pattern, or nothing where every haystack would pass. -/
def ofPattern? (p : Pattern UInt8) : Option Prefilter :=
  let needles := requiredLiterals p
  let exactLength? := if p.hasRepetition then none else some p.length
  if needles.isEmpty && p.minLength == 0 && exactLength?.isNone then none
  else some ⟨needles, p.minLength, exactLength?⟩

/-- What is behind the first occurrence of a byte. -/
def behind? (needle : UInt8) (haystack : List UInt8) : Option (List UInt8) :=
  (haystack.idxOf? needle).map fun i => haystack.drop (i + 1)

/-- Whether the bytes appear in the haystack in their order, each searched for behind the one
before. -/
def appearInOrder : List UInt8 → List UInt8 → Bool
  | [], _ => true
  | needle :: needles, haystack =>
    match behind? needle haystack with
    | none => false
    | some rest => appearInOrder needles rest

/-- Whether a haystack meets the condition. -/
def isPossible (f : Prefilter) (haystack : List UInt8) : Bool :=
  decide (f.minLength ≤ haystack.length) && f.exactLength?.all (· == haystack.length) &&
    appearInOrder f.needles haystack

/-- The memory held, in bytes. -/
def memory (f : Prefilter) : Nat :=
  f.needles.length

/-- What is logged when the prefilter of a pattern has been looked for. -/
def event : Option Prefilter → LogEvent
  | none => .prefilterOmitted
  | some f => .prefilterBuilt f.needles.length f.minLength

end Prefilter

end StarMatch
