/-!
# Tokens

A pattern is written as a sequence of tokens: literal symbols, the wildcard, and the star that
repeats whatever stands before it. The only comparison of symbols in the library is the one made by
`Token.accepts`, and it uses the symbols' own `==`, whatever laws that test obeys.
-/

namespace StarMatch

universe u

/-- One token of a pattern over symbols of type `σ`. -/
inductive Token (σ : Type u) where
  /-- Stands for one symbol equal to the given one. -/
  | lit (symbol : σ)
  /-- Stands for any one symbol. -/
  | any
  /-- Repeats the token before it any number of times, zero included. -/
  | star
  deriving BEq, DecidableEq, Repr

namespace Token

variable {σ : Type u}

/-- Whether the token is the star. -/
def isStar : Token σ → Bool
  | star => true
  | _ => false

/-- The symbol of a literal token. -/
def literal? : Token σ → Option σ
  | lit symbol => some symbol
  | _ => none

/-- Whether the token, standing alone, accepts the given symbol. A star accepts nothing by
itself. -/
def accepts [BEq σ] : Token σ → σ → Bool
  | lit expected, symbol => expected == symbol
  | any, _ => true
  | star, _ => false

@[simp] theorem isStar_lit (s : σ) : (lit s).isStar = false := rfl
@[simp] theorem isStar_any : (any : Token σ).isStar = false := rfl
@[simp] theorem isStar_star : (star : Token σ).isStar = true := rfl

theorem isStar_iff {t : Token σ} : t.isStar = true ↔ t = star := by
  cases t <;> simp

end Token

end StarMatch
