import StarMatch.Proofs.Pattern.Tokens

/-!
# Parts of a pattern

What makes a sequence of tokens a pattern is said about neighbours only: no star stands in front, and
none behind another star. So every front of a pattern is a pattern itself, and so is every rest of it
that does not begin with a star.
-/

namespace StarMatch

universe u

variable {σ : Type u} {tokens : List (Token σ)}

theorem misplacedStarFrom?_eq_none {bare : Bool} {offset : Nat}
    (hfront : bare = true → tokens[0]?.any Token.isStar = false)
    (hbehind : ∀ i, tokens[i + 1]?.any Token.isStar = true → tokens[i]?.any Token.isStar = false) :
    misplacedStarFrom? bare offset tokens = none := by
  induction tokens generalizing bare offset with
  | nil => rfl
  | cons token rest ih =>
    have hfault : (token.isStar && bare) = false := by
      cases bare with
      | false => simp
      | true => simpa using hfront rfl
    rw [misplacedStarFrom?, hfault]
    refine ih ?_ ?_
    · intro hstar
      cases hnext : rest[0]?.any Token.isStar with
      | false => rfl
      | true =>
        have hnot := hbehind 0 (by simpa using hnext)
        simp [hstar] at hnot
    · intro i hnext
      simpa using hbehind (i + 1) (by simpa using hnext)

namespace Pattern

variable (p : Pattern σ)

theorem front_not_star : p.tokens[0]?.any Token.isStar = false := by
  rw [← List.head?_eq_getElem?]
  exact head_not_star p.wellFormed

/-- What stands right before a star is no star. -/
theorem not_star_of_next_star {i : Nat} (hnext : p.tokens[i + 1]?.any Token.isStar = true) :
    p.tokens[i]?.any Token.isStar = false := by
  cases htoken : p.tokens[i]? with
  | none => rfl
  | some token =>
    rw [Option.any_some]
    exact not_star_before_star p.wellFormed htoken hnext

/-- What stands right behind a star is no star. -/
theorem not_star_behind_star {i : Nat} (hstar : p.tokens[i]?.any Token.isStar = true) :
    p.tokens[i + 1]?.any Token.isStar = false := by
  cases hnext : p.tokens[i + 1]?.any Token.isStar with
  | false => rfl
  | true =>
    rw [p.not_star_of_next_star hnext] at hstar
    cases hstar

/-- The pattern made of the given number of tokens at the front. -/
def take (count : Nat) : Pattern σ where
  tokens := p.tokens.take count
  wellFormed := by
    refine misplacedStarFrom?_eq_none ?_ ?_
    · intro _
      have hfront := p.front_not_star
      rw [List.getElem?_take]
      split
      · exact hfront
      · rfl
    · intro i hnext
      rw [List.getElem?_take] at hnext ⊢
      split at hnext
      · rw [if_pos (by omega)]
        exact p.not_star_of_next_star hnext
      · cases hnext

/-- The pattern made of all tokens but the given number of them, if it does not begin with a star. -/
def drop (count : Nat) (h : p.tokens[count]?.any Token.isStar = false) : Pattern σ where
  tokens := p.tokens.drop count
  wellFormed := by
    refine misplacedStarFrom?_eq_none ?_ ?_
    · intro _
      rwa [List.getElem?_drop]
    · intro i hnext
      rw [List.getElem?_drop] at hnext ⊢
      exact p.not_star_of_next_star hnext

@[simp] theorem tokens_take (count : Nat) : (p.take count).tokens = p.tokens.take count := rfl

@[simp] theorem tokens_drop {count : Nat} (h : p.tokens[count]?.any Token.isStar = false) :
    (p.drop count h).tokens = p.tokens.drop count := rfl

theorem matches_drop_iff [BEq σ] {count : Nat} (h : p.tokens[count]?.any Token.isStar = false)
    {symbols : List σ} :
    (p.drop count h).Matches symbols ↔ Cut (Atom.ofTokensFrom count (p.tokens.drop count)) symbols :=
  cutAlong_iff count

end Pattern

end StarMatch
