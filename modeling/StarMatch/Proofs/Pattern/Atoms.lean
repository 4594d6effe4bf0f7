import StarMatch.Pattern.Basic

/-!
# The atoms of a part of a pattern

An engine works on the rest of a pattern or on its front. As long as no star is cut off from the
token it repeats, the atoms of the pattern are those of the front and those of the rest, so the rest
begins with one atom more than the rest behind it, and the front ends in one atom more than the
front before it.
-/

namespace StarMatch

universe u

variable {σ : Type u} {tokens : List (Token σ)} {token : Token σ}

/-- Where no star can stand, the first token of a well-formed sequence is no star. -/
theorem head_not_star {offset : Nat} (h : misplacedStarFrom? true offset tokens = none) :
    tokens.head?.any Token.isStar = false := by
  cases tokens with
  | nil => rfl
  | cons t ts => cases t <;> simp_all [misplacedStarFrom?]

/-- What a star repeats is no star. -/
theorem not_star_before_star {bare : Bool} {offset : Nat}
    (h : misplacedStarFrom? bare offset tokens = none) {i : Nat} (htoken : tokens[i]? = some token)
    (hstar : tokens[i + 1]?.any Token.isStar = true) : token.isStar = false := by
  induction tokens generalizing bare offset i with
  | nil => cases htoken
  | cons t ts ih =>
    rw [misplacedStarFrom?] at h
    split at h
    · cases h
    · cases i with
      | zero =>
        obtain rfl := Option.some.inj htoken
        cases ht : t.isStar with
        | false => rfl
        | true =>
          rw [ht] at h
          have hhead := head_not_star h
          rw [List.head?_eq_getElem?] at hhead
          simp [hhead] at hstar
      | succ i => exact ih h htoken hstar

namespace Atom

theorem ofTokensFrom_cons_star (offset : Nat) (token : Token σ) (rest : List (Token σ)) :
    ofTokensFrom offset (token :: .star :: rest) =
      ⟨offset, token, true⟩ :: ofTokensFrom (offset + 2) rest := by
  rw [ofTokensFrom]

theorem ofTokensFrom_cons_of_not_star (offset : Nat) (token : Token σ) {rest : List (Token σ)}
    (h : rest.head?.any Token.isStar = false) :
    ofTokensFrom offset (token :: rest) =
      ⟨offset, token, false⟩ :: ofTokensFrom (offset + 1) rest := by
  cases rest with
  | nil => simp [ofTokensFrom]
  | cons next rest => cases next <;> simp_all [ofTokensFrom]

/-- Cut in front of a token that is no star, a sequence of tokens has the atoms of both parts. -/
theorem ofTokensFrom_append (offset : Nat) (front : List (Token σ)) {back : List (Token σ)}
    (h : back.head?.any Token.isStar = false) :
    ofTokensFrom offset (front ++ back) =
      ofTokensFrom offset front ++ ofTokensFrom (offset + front.length) back := by
  fun_induction ofTokensFrom offset front with
  | case1 offset => rfl
  | case2 offset t => exact ofTokensFrom_cons_of_not_star offset t h
  | case3 offset t ts ih =>
    have hoffset : offset + 2 + ts.length = offset + (t :: Token.star :: ts).length := by
      simp only [List.length_cons]
      omega
    rw [List.cons_append, List.cons_append, ofTokensFrom_cons_star, ih, hoffset, List.cons_append]
  | case4 offset t u ts hu ih =>
    have hhead : (u :: ts ++ back).head?.any Token.isStar = false := by
      cases u <;> simp_all
    have hoffset : offset + 1 + (u :: ts).length = offset + (t :: u :: ts).length := by
      simp only [List.length_cons]
      omega
    rw [List.cons_append, ofTokensFrom_cons_of_not_star offset t hhead, ih, hoffset,
      List.cons_append]

theorem ofTokensFrom_drop_repeated {i : Nat} (htoken : tokens[i]? = some token)
    (hstar : tokens[i + 1]?.any Token.isStar = true) :
    ofTokensFrom i (tokens.drop i) =
      ⟨i, token, true⟩ :: ofTokensFrom (i + 2) (tokens.drop (i + 2)) := by
  obtain ⟨next, hnext, hisStar⟩ := (Option.any_eq_true _ _).mp hstar
  rw [Token.isStar_iff] at hisStar
  subst hisStar
  obtain ⟨hlt, rfl⟩ := List.getElem?_eq_some_iff.mp htoken
  obtain ⟨hlt', hstar'⟩ := List.getElem?_eq_some_iff.mp hnext
  rw [List.drop_eq_getElem_cons hlt, List.drop_eq_getElem_cons hlt', hstar',
    ofTokensFrom_cons_star]

theorem ofTokensFrom_drop_single {i : Nat} (htoken : tokens[i]? = some token)
    (hstar : tokens[i + 1]?.any Token.isStar = false) :
    ofTokensFrom i (tokens.drop i) =
      ⟨i, token, false⟩ :: ofTokensFrom (i + 1) (tokens.drop (i + 1)) := by
  obtain ⟨hlt, rfl⟩ := List.getElem?_eq_some_iff.mp htoken
  rw [List.drop_eq_getElem_cons hlt]
  exact ofTokensFrom_cons_of_not_star i _ (by rwa [List.head?_drop])

/-- The front of a pattern that ends in a token other than a star ends in an atom of that token. -/
theorem ofTokensFrom_take_single {i : Nat} (htoken : tokens[i]? = some token)
    (hstar : token.isStar = false) :
    ofTokensFrom 0 (tokens.take (i + 1)) =
      ofTokensFrom 0 (tokens.take i) ++ [⟨i, token, false⟩] := by
  obtain ⟨hlt, rfl⟩ := List.getElem?_eq_some_iff.mp htoken
  have hlength : (tokens.take i).length = i := List.length_take_of_le (Nat.le_of_lt hlt)
  rw [List.take_succ_eq_append_getElem hlt, ofTokensFrom_append 0 _ (by simpa using hstar),
    hlength, Nat.zero_add, ofTokensFrom]

/-- The front of a pattern that ends in a star ends in the atom that the star repeats. -/
theorem ofTokensFrom_take_repeated {i : Nat} (htoken : tokens[i]? = some token)
    (hstar : token.isStar = false) (hnext : tokens[i + 1]? = some .star) :
    ofTokensFrom 0 (tokens.take (i + 2)) =
      ofTokensFrom 0 (tokens.take i) ++ [⟨i, token, true⟩] := by
  obtain ⟨hlt, rfl⟩ := List.getElem?_eq_some_iff.mp htoken
  obtain ⟨hlt', hnext'⟩ := List.getElem?_eq_some_iff.mp hnext
  have hlength : (tokens.take i).length = i := List.length_take_of_le (Nat.le_of_lt hlt)
  rw [List.take_succ_eq_append_getElem hlt', hnext', List.take_succ_eq_append_getElem hlt,
    List.append_assoc, ofTokensFrom_append 0 _ (by simpa using hstar), hlength, Nat.zero_add]
  rfl

end Atom

end StarMatch
