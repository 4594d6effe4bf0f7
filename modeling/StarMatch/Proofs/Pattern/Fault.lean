import StarMatch.Pattern.Basic

/-!
# The first fault of a sequence of tokens

Tokens are looked at from the front, and the first misplaced star is the one that is reported. So a
front of the tokens has the same fault if it reaches that far, and none otherwise: the reported offset
is where the fronts that are patterns end.
-/

namespace StarMatch

universe u

variable {σ : Type u} {token : Token σ} {tokens : List (Token σ)} {bare : Bool} {offset k : Nat}

theorem misplacedStarFrom?_cons (h : (token.isStar && bare) = false) (offset : Nat)
    (tokens : List (Token σ)) :
    misplacedStarFrom? bare offset (token :: tokens) =
      misplacedStarFrom? token.isStar (offset + 1) tokens := by
  rw [misplacedStarFrom?, h]
  rfl

theorem misplacedStarFrom?_cons_of_fault (h : (token.isStar && bare) = true) (offset : Nat)
    (tokens : List (Token σ)) :
    misplacedStarFrom? bare offset (token :: tokens) = some offset := by
  rw [misplacedStarFrom?, if_pos h]

/-- What stands before a token that is no star has no part in its faults. -/
theorem misplacedStarFrom?_of_head (h : tokens.head?.any Token.isStar = false) (bare bare' : Bool)
    (offset : Nat) :
    misplacedStarFrom? bare offset tokens = misplacedStarFrom? bare' offset tokens := by
  cases tokens with
  | nil => rfl
  | cons token tokens =>
    have htoken : token.isStar = false := h
    rw [misplacedStarFrom?_cons (by simp [htoken]), misplacedStarFrom?_cons (by simp [htoken])]

theorem misplacedStarFrom?_map_lit_append {symbols : List σ} (hsymbols : symbols ≠ []) (bare : Bool)
    (offset : Nat) (tokens : List (Token σ)) :
    misplacedStarFrom? bare offset (symbols.map .lit ++ tokens) =
      misplacedStarFrom? false (offset + symbols.length) tokens := by
  induction symbols generalizing bare offset with
  | nil => exact absurd rfl hsymbols
  | cons symbol symbols ih =>
    rw [List.map_cons, List.cons_append, misplacedStarFrom?_cons rfl, Token.isStar_lit]
    cases symbols with
    | nil => rfl
    | cons next symbols =>
      have hlength : offset + 1 + (next :: symbols).length =
          offset + (symbol :: next :: symbols).length := by
        simp only [List.length_cons]
        omega
      rw [ih (List.cons_ne_nil next symbols), hlength]

theorem le_of_misplacedStarFrom? (h : misplacedStarFrom? bare offset tokens = some k) :
    offset ≤ k := by
  induction tokens generalizing bare offset with
  | nil => cases h
  | cons token tokens ih =>
    cases hfault : token.isStar && bare with
    | true =>
      rw [misplacedStarFrom?_cons_of_fault hfault] at h
      exact Nat.le_of_eq (Option.some.inj h)
    | false =>
      rw [misplacedStarFrom?_cons hfault] at h
      exact Nat.le_of_succ_le (ih h)

/-- A fault is reported at a star. -/
theorem getElem?_of_misplacedStarFrom? (h : misplacedStarFrom? bare offset tokens = some k) :
    tokens[k - offset]? = some .star := by
  induction tokens generalizing bare offset with
  | nil => cases h
  | cons token tokens ih =>
    cases hfault : token.isStar && bare with
    | true =>
      rw [misplacedStarFrom?_cons_of_fault hfault] at h
      obtain rfl := Option.some.inj h
      have hstar : token.isStar = true := (Bool.and_eq_true_iff.mp hfault).1
      rw [Nat.sub_self, List.getElem?_cons_zero, Token.isStar_iff.mp hstar]
    | false =>
      rw [misplacedStarFrom?_cons hfault] at h
      have hle : offset + 1 ≤ k := le_of_misplacedStarFrom? h
      have hplace : k - offset = k - (offset + 1) + 1 := by omega
      rw [hplace, List.getElem?_cons_succ]
      exact ih h

/-- A front of the tokens has the fault of all of them if it reaches that far. -/
theorem misplacedStarFrom?_take (bare : Bool) (offset count : Nat) (tokens : List (Token σ)) :
    misplacedStarFrom? bare offset (tokens.take count) =
      (misplacedStarFrom? bare offset tokens).filter fun k => k < offset + count := by
  induction tokens generalizing bare offset count with
  | nil => rw [List.take_nil]; rfl
  | cons token tokens ih =>
    cases count with
    | zero =>
      have hnone : (misplacedStarFrom? bare offset (token :: tokens)).filter
          (fun k => k < offset + 0) = none := by
        rw [Option.filter_eq_none_iff]
        intro k hk
        have hle := le_of_misplacedStarFrom? hk
        simpa using hle
      rw [List.take_zero, hnone]
      rfl
    | succ count =>
      rw [List.take_succ_cons]
      cases hfault : token.isStar && bare with
      | true =>
        rw [misplacedStarFrom?_cons_of_fault hfault, misplacedStarFrom?_cons_of_fault hfault,
          Option.filter_some_pos (by simp)]
      | false =>
        have hcount : offset + (count + 1) = offset + 1 + count := by omega
        rw [misplacedStarFrom?_cons hfault, misplacedStarFrom?_cons hfault, ih, hcount]

/-- The report of a misplaced star. -/
def PatternError.misplaced : Nat → PatternError
  | 0 => .leadingRepetition
  | offset + 1 => .repeatedRepetition (offset + 1)

namespace PatternError

@[simp] theorem offset?_misplaced (k : Nat) : (misplaced k).offset? = some k := by
  cases k <;> rfl

@[simp] theorem isMalformed_misplaced (k : Nat) : (misplaced k).isMalformed = true := by
  cases k <;> rfl

theorem misplaced_eq_leadingRepetition_iff : misplaced k = .leadingRepetition ↔ k = 0 := by
  cases k <;> simp [misplaced]

end PatternError

namespace Pattern

theorem ofTokens_eq_ok_iff {p : Pattern σ} :
    ofTokens tokens = .ok p ↔ p.tokens = tokens := by
  constructor
  · intro h
    unfold ofTokens at h
    split at h
    · rw [← Except.ok.inj h]
    · cases h
    · cases h
  · rintro rfl
    have hwellFormed := p.wellFormed
    unfold ofTokens
    split
    · rfl
    · simp_all
    · simp_all

theorem exists_ofTokens_eq_ok_iff :
    (∃ p, ofTokens tokens = .ok p) ↔ misplacedStar? tokens = none := by
  constructor
  · rintro ⟨p, hp⟩
    rw [← ofTokens_eq_ok_iff.mp hp]
    exact p.wellFormed
  · intro h
    exact ⟨⟨tokens, h⟩, ofTokens_eq_ok_iff.mpr rfl⟩

/-- Tokens are rejected for the first misplaced star. -/
theorem ofTokens_eq_error_iff {e : PatternError} :
    ofTokens tokens = .error e ↔ ∃ k, misplacedStar? tokens = some k ∧ e = .misplaced k := by
  unfold ofTokens
  split
  · next h => simp [h]
  · next h => simp [h, PatternError.misplaced, eq_comm]
  · next k hk h =>
    obtain ⟨k, rfl⟩ := Nat.exists_eq_succ_of_ne_zero (fun hzero => hk hzero)
    simp [h, PatternError.misplaced, eq_comm]

end Pattern

end StarMatch
