import StarMatch.Proofs.Pattern.Atoms
import StarMatch.Proofs.Pattern.Cut
import StarMatch.Search.Table

/-!
# Filling the table

The table engine decides every front of the pattern on every front of the haystack. A front of the
pattern that is not empty ends in an atom, and whether it matches follows from the same cells that
its own cell is computed from. So the cells that have been filled are right after every cell, after
every row and at the end.
-/

namespace StarMatch.TableMatcher

universe u

variable {σ : Type u} [BEq σ]

/-- The first `row` symbols match the pattern made of the first `column` tokens. -/
def FrontMatches (tokens : List (Token σ)) (haystack : Haystack σ) (row column : Nat) : Prop :=
  Cut (Atom.ofTokensFrom 0 (tokens.take column)) (haystack.toList.take row)

/-- Whether a token accepts the symbol of a row. The first row has no symbol. -/
def rowAccepts (haystack : Haystack σ) : Nat → Token σ → Bool
  | 0, _ => false
  | i + 1, token => (haystack.get? i).any token.accepts

variable {tokens : List (Token σ)} {haystack : Haystack σ} {token : Token σ} {row column : Nat}

/-- The symbol of a row is the last one of its front. -/
theorem exists_take_eq_concat_iff {P : List σ → Prop} (hrow : row ≤ haystack.length) :
    (∃ front symbol, haystack.toList.take row = front ++ [symbol] ∧ token.accepts symbol = true ∧
      P front) ↔ rowAccepts haystack row token = true ∧ P (haystack.toList.take (row - 1)) := by
  cases row with
  | zero => simp [rowAccepts]
  | succ i =>
    have hi : i < haystack.toList.length := by
      rw [Haystack.length_toList]
      exact hrow
    have htake := List.take_succ_eq_append_getElem hi
    have hget : haystack.get? i = some haystack.toList[i] := by
      rw [← Haystack.getElem?_toList, List.getElem?_eq_getElem hi]
    rw [rowAccepts, hget, Option.any_some, Nat.add_sub_cancel]
    constructor
    · rintro ⟨front, symbol, hfront, hsymbol, hP⟩
      rw [htake] at hfront
      obtain ⟨rfl, hlast⟩ := List.append_inj' hfront rfl
      obtain rfl := List.singleton_inj.mp hlast
      exact ⟨hsymbol, hP⟩
    · rintro ⟨hsymbol, hP⟩
      exact ⟨_, _, htake, hsymbol, hP⟩

theorem frontMatches_zero_iff (hrow : row ≤ haystack.length) :
    FrontMatches tokens haystack row 0 ↔ row = 0 := by
  rw [FrontMatches, List.take_zero, Atom.ofTokensFrom, cut_nil_iff, List.take_eq_nil_iff,
    ← List.length_eq_zero_iff, Haystack.length_toList]
  omega

/-- A front that ends in a token other than a star matches when the token accepts the last symbol
and the front before it matches what is before that symbol. -/
theorem frontMatches_single_iff (hrow : row ≤ haystack.length)
    (htoken : tokens[column]? = some token) (hstar : token.isStar = false) :
    FrontMatches tokens haystack row (column + 1) ↔
      rowAccepts haystack row token = true ∧
        FrontMatches tokens haystack (row - 1) column := by
  rw [FrontMatches, Atom.ofTokensFrom_take_single htoken hstar, cut_concat_single_iff,
    exists_take_eq_concat_iff hrow]
  rfl

/-- A front that ends in a star matches when it matches without the atom that the star repeats, or
when the atom accepts the last symbol and the same front matches what is before that symbol. -/
theorem frontMatches_repeated_iff (hrow : row ≤ haystack.length)
    (htoken : tokens[column]? = some token) (hstar : token.isStar = false)
    (hnext : tokens[column + 1]? = some .star) :
    FrontMatches tokens haystack row (column + 2) ↔
      FrontMatches tokens haystack row column ∨
        rowAccepts haystack row token = true ∧
          FrontMatches tokens haystack (row - 1) (column + 2) := by
  simp only [FrontMatches]
  rw [Atom.ofTokensFrom_take_repeated htoken hstar hnext, cut_concat_repeated_iff,
    exists_take_eq_concat_iff hrow]

/-- The cells before a place, row by row from the top and each row from the left, are right, and so
is the whole first column. -/
structure Table.RightUpTo (table : Table) (tokens : List (Token σ)) (haystack : Haystack σ)
    (row column : Nat) : Prop where
  shape : table.HasShape (haystack.length + 1) (tokens.length + 1)
  right : ∀ i ≤ haystack.length, ∀ j ≤ tokens.length, j = 0 ∨ i < row ∨ i = row ∧ j < column →
    (table.holds i j = true ↔ FrontMatches tokens haystack i j)

namespace Table.RightUpTo

variable {table : Table}

theorem start {blank : Table} (hblank : blank = .filled (tokens.length + 1)
      ((haystack.length + 1) * (tokens.length + 1)) false) :
    Table.RightUpTo (blank.set 0 0 true) tokens haystack 0 1 := by
  have hshape : blank.HasShape (haystack.length + 1) (tokens.length + 1) :=
    hblank ▸ Grid.hasShape_filled _ _ _
  refine ⟨hshape.set 0 0 true, fun i hi j hj hfilled => ?_⟩
  obtain rfl : j = 0 := by omega
  rw [frontMatches_zero_iff hi, Table.holds,
    hshape.get?_set (Nat.succ_pos _) (Nat.succ_pos _) (Nat.succ_pos _)]
  split
  · next hzero => simp [hzero.1]
  · next hzero =>
    have hi' : i ≠ 0 := fun hzero' => hzero ⟨hzero'.symm, rfl⟩
    simp only [hblank, Grid.get?_filled, hi', iff_false]
    split <;> simp

/-- The cell in the row above is right where the row has a symbol that is accepted. -/
theorem above_iff (h : table.RightUpTo tokens haystack row column) (hrow : row ≤ haystack.length)
    (haccepts : rowAccepts haystack row token = true) {j : Nat} (hj : j ≤ tokens.length) :
    table.holds (row - 1) j = true ↔ FrontMatches tokens haystack (row - 1) j := by
  cases row with
  | zero => cases haccepts
  | succ i => exact h.right i (Nat.le_of_succ_le hrow) j hj (.inr (.inl (Nat.lt_succ_self i)))

/-- A cell is computed rightly from the cells before it. -/
theorem cell_iff (h : table.RightUpTo tokens haystack row (column + 1))
    (hpattern : misplacedStar? tokens = none) (hrow : row ≤ haystack.length)
    {previous : Option (Token σ)} (hprevious : ∀ i, column = i + 1 → previous = tokens[i]?)
    (htoken : tokens[column]? = some token) :
    cell (rowAccepts haystack row) table row (column + 1) previous token = true ↔
      FrontMatches tokens haystack row (column + 1) := by
  obtain ⟨hlt, -⟩ := List.getElem?_eq_some_iff.mp htoken
  cases hstar : token.isStar with
  | false =>
    rw [frontMatches_single_iff hrow htoken hstar, cell, hstar, if_neg Bool.false_ne_true,
      Bool.and_eq_true, Nat.add_sub_cancel]
    exact and_congr_right fun haccepts => h.above_iff hrow haccepts (Nat.le_of_lt hlt)
  | true =>
    obtain rfl := Token.isStar_iff.mp hstar
    cases column with
    | zero =>
      -- No pattern begins with a star.
      have hhead := head_not_star hpattern
      rw [List.head?_eq_getElem?, htoken] at hhead
      cases hhead
    | succ i =>
      obtain ⟨repeated, hrepeated⟩ : ∃ t, tokens[i]? = some t :=
        ⟨tokens[i], List.getElem?_eq_getElem (by omega)⟩
      have hnotStar := not_star_before_star hpattern hrepeated (by simp [htoken])
      have hskip := h.right row hrow i (by omega) (.inr (.inr ⟨rfl, by omega⟩))
      rw [frontMatches_repeated_iff hrow hrepeated hnotStar htoken, cell, hstar, if_pos rfl,
        Bool.or_eq_true, Bool.and_eq_true, hprevious i rfl, hrepeated, Option.any_some]
      exact or_congr hskip (and_congr_right fun haccepts => h.above_iff hrow haccepts hlt)

/-- Filling a cell makes the next cells right up to the one behind it. -/
theorem set (h : table.RightUpTo tokens haystack row (column + 1)) (hrow : row ≤ haystack.length)
    (hcolumn : column < tokens.length) {content : Bool}
    (hcontent : content = true ↔ FrontMatches tokens haystack row (column + 1)) :
    Table.RightUpTo (Grid.set table row (column + 1) content) tokens haystack row (column + 2) := by
  refine ⟨h.shape.set _ _ _, fun i hi j hj hfilled => ?_⟩
  rw [Table.holds, h.shape.get?_set (by omega) (by omega) (by omega)]
  split
  · next hcell =>
    obtain ⟨rfl, rfl⟩ := hcell
    exact hcontent
  · next hcell => exact h.right i hi j hj (by omega)

theorem nextRow (h : table.RightUpTo tokens haystack row column) (hcolumn : tokens.length < column) :
    table.RightUpTo tokens haystack (row + 1) 1 :=
  ⟨h.shape, fun i hi j hj hfilled => h.right i hi j hj (by omega)⟩

/-- Filling the rest of a row makes the whole row right. -/
theorem fillRow (h : table.RightUpTo tokens haystack row (column + 1))
    (hpattern : misplacedStar? tokens = none) (hrow : row ≤ haystack.length)
    {previous : Option (Token σ)} (hprevious : ∀ i, column = i + 1 → previous = tokens[i]?)
    {rest : List (Token σ)} (hrest : tokens.drop column = rest) :
    Table.RightUpTo
      (TableMatcher.fillRow (rowAccepts haystack row) row (column + 1) previous rest table)
      tokens haystack (row + 1) 1 := by
  induction rest generalizing table column previous with
  | nil => exact h.nextRow (Nat.lt_succ_of_le (List.drop_eq_nil_iff.mp hrest))
  | cons token rest ih =>
    have htoken : tokens[column]? = some token := by
      rw [← List.head?_drop, hrest, List.head?_cons]
    have hlt : column < tokens.length := (List.getElem?_eq_some_iff.mp htoken).1
    have hrest' : tokens.drop (column + 1) = rest := by
      rw [← List.tail_drop, hrest, List.tail_cons]
    refine ih (h.set hrow hlt (h.cell_iff hpattern hrow hprevious htoken)) ?_ hrest'
    intro i hi
    obtain rfl := Nat.succ.inj hi
    exact htoken.symm

theorem fillWholeRow (h : table.RightUpTo tokens haystack row 1)
    (hpattern : misplacedStar? tokens = none) (hrow : row ≤ haystack.length) :
    Table.RightUpTo (TableMatcher.fillRow (rowAccepts haystack row) row 1 none tokens table)
      tokens haystack (row + 1) 1 := by
  have hprevious : ∀ i, 0 = i + 1 → (none : Option (Token σ)) = tokens[i]? := by simp
  exact h.fillRow hpattern hrow hprevious List.drop_zero

end Table.RightUpTo

/-- The symbol of a row is the one of the haystack that the row is filled behind. -/
theorem rowAccepts_succ {i : Nat} (hi : i < haystack.length) :
    rowAccepts haystack (i + 1) = fun token => token.accepts (haystack.symbolAt ⟨i, hi⟩) := by
  funext token
  rw [rowAccepts, Haystack.get?, dif_pos hi, Option.any_some]

omit [BEq σ] in
/-- What every round of a counted loop passes on holds at its end. -/
theorem fold_induction {α : Type} {P : Nat → α → Prop} {n : Nat} {f : (i : Nat) → i < n → α → α}
    {a : α} (hstart : P 0 a) (hround : ∀ i hi a, P i a → P (i + 1) (f i hi a)) :
    P n (n.fold f a) := by
  induction n with
  | zero => exact hstart
  | succ n ih =>
    rw [Nat.fold_succ]
    exact hround n _ _ (ih fun i hi => hround i _)

/-- Every cell of the finished table is right. -/
theorem rightUpTo_fill {m : TableMatcher σ} {blank : Table}
    (hblank : blank = .filled (m.pattern.length + 1)
      ((haystack.length + 1) * (m.pattern.length + 1)) false) :
    (m.fill haystack blank).RightUpTo m.pattern.tokens haystack (haystack.length + 1) 1 := by
  have hpattern : misplacedStar? m.pattern.tokens = none := m.pattern.wellFormed
  have hfirst := (Table.RightUpTo.start hblank).fillWholeRow hpattern (Nat.zero_le _)
  let P (i : Nat) (table : Table) : Prop := table.RightUpTo m.pattern.tokens haystack (i + 1) 1
  have hround : ∀ i (hi : i < haystack.length) (table : Table), P i table →
      P (i + 1) (fillSymbolRow m.pattern.tokens (haystack.symbolAt ⟨i, hi⟩) (i + 1) table) := by
    intro i hi table h
    rw [fillSymbolRow, ← rowAccepts_succ hi]
    exact h.fillWholeRow hpattern hi
  exact fold_induction hfirst hround

/-- The finished table says whether the pattern matches the haystack. -/
theorem holds_fill_iff {m : TableMatcher σ} {blank : Table}
    (hblank : blank = .filled (m.pattern.length + 1)
      ((haystack.length + 1) * (m.pattern.length + 1)) false) :
    (m.fill haystack blank).holds haystack.length m.pattern.length = true ↔
      m.pattern.Matches haystack.toList := by
  have hright := (rightUpTo_fill hblank).right haystack.length (Nat.le_refl _)
    m.pattern.tokens.length (Nat.le_refl _) (.inr (.inl (Nat.lt_succ_self _)))
  rw [FrontMatches, List.take_length, List.take_of_length_le (by simp)] at hright
  exact hright

end StarMatch.TableMatcher
