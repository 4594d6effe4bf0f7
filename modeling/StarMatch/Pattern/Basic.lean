import StarMatch.Pattern.Token
import StarMatch.Pattern.Error

/-!
# Patterns

A pattern is a sequence of tokens in which every star has a token of another kind right before it.
A token together with the star behind it, if there is one, is an atom, and a pattern is read as the
sequence of its atoms: `atoms_toTokens` says that laying the atoms out again gives the tokens back.
-/

namespace StarMatch

universe u

variable {σ : Type u}

/-- The offset of the first star that has nothing to repeat, counting from `offset`. The flag
`bare` says that the tokens so far end in nothing that a star could repeat. -/
def misplacedStarFrom? (bare : Bool) (offset : Nat) : List (Token σ) → Option Nat
  | [] => none
  | t :: ts => if t.isStar && bare then some offset else misplacedStarFrom? t.isStar (offset + 1) ts

/-- The offset of the first star that stands at the front or behind another star. -/
def misplacedStar? (tokens : List (Token σ)) : Option Nat :=
  misplacedStarFrom? true 0 tokens

/-- A sequence of tokens in which every star has something to repeat. -/
structure Pattern (σ : Type u) where
  tokens : List (Token σ)
  wellFormed : misplacedStar? tokens = none

/-- A token of a pattern, its offset, and whether a star follows it. -/
structure Atom (σ : Type u) where
  offset : Nat
  token : Token σ
  repeated : Bool
  deriving DecidableEq, Repr

namespace Atom

/-- The tokens that spell the atom. -/
def toTokens (a : Atom σ) : List (Token σ) :=
  if a.repeated then [a.token, .star] else [a.token]

/-- The atoms of a sequence of tokens whose first token has the given offset. -/
def ofTokensFrom (offset : Nat) : List (Token σ) → List (Atom σ)
  | [] => []
  | [t] => [⟨offset, t, false⟩]
  | t :: .star :: ts => ⟨offset, t, true⟩ :: ofTokensFrom (offset + 2) ts
  | t :: u :: ts => ⟨offset, t, false⟩ :: ofTokensFrom (offset + 1) (u :: ts)

/-- Laying out the atoms of a sequence of tokens gives the sequence back. -/
theorem flatMap_toTokens_ofTokensFrom (offset : Nat) (tokens : List (Token σ)) :
    (ofTokensFrom offset tokens).flatMap toTokens = tokens := by
  fun_induction ofTokensFrom offset tokens with
  | case1 => rfl
  | case2 => rfl
  | case3 offset t ts ih => simp [toTokens, ih]
  | case4 offset t u ts _ ih => simp [toTokens, ih]

end Atom

namespace Pattern

/-- The pattern made of the given tokens, or the first fault in them. -/
def ofTokens (tokens : List (Token σ)) : Except PatternError (Pattern σ) :=
  match h : misplacedStar? tokens with
  | none => .ok ⟨tokens, h⟩
  | some 0 => .error .leadingRepetition
  | some offset => .error (.repeatedRepetition offset)

/-- A sequence of literals has no star to misplace. -/
theorem misplacedStarFrom?_map_lit (bare : Bool) (offset : Nat) (symbols : List σ) :
    misplacedStarFrom? bare offset (symbols.map Token.lit) = none := by
  induction symbols generalizing bare offset with
  | nil => rfl
  | cons s symbols ih => simp [misplacedStarFrom?, ih]

/-- The pattern that stands for exactly the given symbols. -/
def literal (symbols : List σ) : Pattern σ :=
  ⟨symbols.map Token.lit, misplacedStarFrom?_map_lit true 0 symbols⟩

/-- The pattern without tokens, which stands for the empty haystack only. -/
def empty : Pattern σ :=
  ⟨[], rfl⟩

/-- Two patterns are equal when their tokens are, one by one. -/
instance [BEq σ] : BEq (Pattern σ) :=
  ⟨fun p q => p.tokens == q.tokens⟩

/-- The number of tokens. -/
def length (p : Pattern σ) : Nat :=
  p.tokens.length

/-- Whether the pattern has no tokens. -/
def isEmpty (p : Pattern σ) : Bool :=
  p.tokens.isEmpty

/-- Whether a star stands right behind the given offset. -/
def isRepeated (p : Pattern σ) (offset : Nat) : Bool :=
  p.tokens[offset + 1]?.any Token.isStar

/-- The atoms, in order. -/
def atoms (p : Pattern σ) : List (Atom σ) :=
  Atom.ofTokensFrom 0 p.tokens

/-- The number of atoms that are not repeated, each of which takes exactly one symbol. -/
def minLength (p : Pattern σ) : Nat :=
  (p.atoms.filter fun a => !a.repeated).length

/-- Whether some atom is repeated. -/
def hasRepetition (p : Pattern σ) : Bool :=
  p.tokens.any Token.isStar

/-- Whether every token is a literal. -/
def isLiteral (p : Pattern σ) : Bool :=
  p.tokens.all fun t => t.literal?.isSome

/-- The tokens of a pattern are those of its atoms. -/
theorem atoms_toTokens (p : Pattern σ) : p.atoms.flatMap Atom.toTokens = p.tokens :=
  Atom.flatMap_toTokens_ofTokensFrom 0 p.tokens

@[simp] theorem tokens_literal (symbols : List σ) :
    (literal symbols).tokens = symbols.map Token.lit := rfl

end Pattern

end StarMatch
