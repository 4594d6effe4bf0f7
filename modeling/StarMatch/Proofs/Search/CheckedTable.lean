import StarMatch.Proofs.Pattern.Parts
import StarMatch.Proofs.Search.Checks
import StarMatch.Proofs.Search.Scratch

/-!
# The table engine under checks

The same search, written with a check at every step that can go wrong: offsets before a column, the two
rows that are cut out of the table, the places in them, and the words that these are worked out in. No
check ever fails. An offset of two before a column is taken at a star only, and no pattern begins with
a star.
-/

namespace StarMatch.TableMatcher

universe u

variable {σ : Type u} [BEq σ]

section Definitions

variable (tokens : Array (Token σ)) (haystack : Haystack σ)

omit [BEq σ] in
/-- Fills the given number of cells of the first row from a column on. Only the cells of stars are
written, the others stay false. -/
def checkedFirstRow : Nat → Nat → Table → Checked Table
  | 0, _, table => return table
  | remaining + 1, column, table => do
    if ← Checked.read tokens (← Checked.difference column 1) Token.isStar then
      let skipped ← Checked.read table.cells (← Checked.difference column 2) id
      let cells ← Checked.write table.cells column skipped
      checkedFirstRow remaining (column + 1) ⟨table.stride, cells⟩
    else checkedFirstRow remaining (column + 1) table

/-- The content of a cell, from the row above and from its own. The atom of a star is looked at only if
the star cannot be left out, and the row above only if the token accepts the symbol. -/
def checkedCell (symbol : σ) (above row : Checked.Part) (table : Table) (column : Nat) :
    Checked Bool := do
  let offset ← Checked.difference column 1
  if ← Checked.read tokens offset Token.isStar then
    let atom ← Checked.difference column 2
    if ← Checked.read table.cells (← row.place atom) id then return true
    else if ← Checked.read tokens atom (·.accepts symbol) then
      Checked.read table.cells (← above.place column) id
    else return false
  else if ← Checked.read tokens offset (·.accepts symbol) then
    Checked.read table.cells (← above.place offset) id
  else return false

/-- Fills the given number of cells of a row from a column on. -/
def checkedRow (symbol : σ) (above row : Checked.Part) : Nat → Nat → Table → Checked Table
  | 0, _, table => return table
  | remaining + 1, column, table => do
    let content ← checkedCell tokens symbol above row table column
    let cells ← Checked.write table.cells (← row.place column) content
    checkedRow symbol above row remaining (column + 1) ⟨table.stride, cells⟩

/-- Fills the row behind a symbol of the haystack. -/
def checkedSymbolRow (stride i : Nat) (table : Table) : Checked Table := do
  let offset ← Checked.difference i 1
  match haystack.get? offset with
  | none => .error .outside
  | some symbol =>
    let low ← Checked.product offset stride
    let high ← Checked.product (← Checked.sum i 1) stride
    let (above, row) ← (← Checked.Part.ofRange table.size low high).split stride
    checkedRow tokens symbol above row (stride - 1) 1 table

/-- Fills the rows behind the given number of symbols, one after the other. -/
def checkedRows (stride : Nat) (first : Table) : Nat → Checked Table
  | 0 => return first
  | i + 1 => do checkedSymbolRow tokens haystack stride (i + 1) (← checkedRows stride first i)

end Definitions

/-- Fills the table of a search, from one whose cells are all false. -/
def checkedFill (m : TableMatcher σ) (haystack : Haystack σ) (stride : Nat) (blank : Table) :
    Checked Table := do
  let tokens := m.pattern.tokens.toArray
  let cells ← Checked.write blank.cells 0 true
  let first ← checkedFirstRow tokens (stride - 2) 2 ⟨blank.stride, cells⟩
  checkedRows tokens haystack stride first haystack.length

/-- Whether the whole haystack matches the pattern. -/
def checkedSearch (m : TableMatcher σ) (cache : Cache) (haystack : Haystack σ) :
    Checked (Outcome Cache) :=
  match checkedCellCount haystack.length m.pattern.length m.settings.tableSizeLimit with
  | .error refusal => return ⟨.error refusal, cache, []⟩
  | .ok cells => do
    let stride ← Checked.sum m.pattern.length 1
    let ready := cache.setup cells stride
    let table ← m.checkedFill haystack stride ready.table
    let last ← Checked.sum (← Checked.product haystack.length stride) m.pattern.length
    let verdict ← Checked.read table.cells last id
    return ⟨.ok verdict, { ready with table := table }, [.tableFilled cells]⟩

variable {tokens : List (Token σ)} {haystack : Haystack σ} {token : Token σ} {table : Table}
  {rows i column : Nat}

section Tokens

omit [BEq σ]

/-- No pattern begins with a star. -/
theorem exists_eq_succ_of_star (hpattern : misplacedStar? tokens = none)
    (htoken : tokens[column]? = some .star) : ∃ k, column = k + 1 := by
  cases column with
  | zero =>
    have hhead := head_not_star hpattern
    rw [List.head?_eq_getElem?, htoken] at hhead
    cases hhead
  | succ k => exact ⟨k, rfl⟩

/-- What is known of the tokens from a column on when the first of them is taken off. -/
theorem of_drop_eq_cons {rest : List (Token σ)} (hrest : tokens.drop column = token :: rest) :
    tokens[column]? = some token ∧ column < tokens.length ∧ tokens.drop (column + 1) = rest ∧
      ∀ k, column + 1 = k + 1 → some token = tokens[k]? := by
  have htoken : tokens[column]? = some token := by rw [← List.head?_drop, hrest, List.head?_cons]
  refine ⟨htoken, (List.getElem?_eq_some_iff.mp htoken).1, ?_, ?_⟩
  · rw [← List.tail_drop, hrest, List.tail_cons]
  · intro k hk
    obtain rfl := Nat.succ.inj hk
    exact htoken.symm

end Tokens

section Shape

omit [BEq σ]

theorem hasShape_fillRow {columns : Nat} (h : table.HasShape rows columns)
    (accepts : Token σ → Bool) (row column : Nat) (previous : Option (Token σ))
    (rest : List (Token σ)) :
    (fillRow accepts row column previous rest table).HasShape rows columns := by
  induction rest generalizing column previous table with
  | nil => exact h
  | cons token rest ih => exact ih (h.set row column _) _ _

/-- There is something at the place of a cell of the table. -/
theorem getElem?_place {columns : Nat} (h : table.HasShape rows columns) (hi : i < rows)
    (hcolumn : column < columns) :
    table.cells[i * columns + column]? = some (table.holds i column) := by
  have hplace := h.index_lt hi hcolumn
  rw [Grid.size] at hplace
  rw [Table.holds, Grid.get?, Array.getElem?_eq_getElem hplace, Option.getD_some, ← h.stride_eq]
  exact Array.getElem?_eq_getElem hplace

theorem set_eq {columns : Nat} (h : table.HasShape rows columns) (i column : Nat) (content : Bool) :
    Grid.set table i column content =
      ⟨table.stride, table.cells.setIfInBounds (i * columns + column) content⟩ := by
  rw [Grid.set, h.stride_eq]

/-- A cell that does not hold may be written as one that does not hold. -/
theorem set_false_eq {columns : Nat} (h : table.HasShape rows columns) (hi : i < rows)
    (hcolumn : column < columns) (hfalse : table.holds i column = false) :
    Grid.set table i column false = table := by
  have hplace := getElem?_place h hi hcolumn
  rw [hfalse] at hplace
  obtain ⟨hlt, hget⟩ := Array.getElem?_eq_some_iff.mp hplace
  rw [set_eq h, Array.setIfInBounds, dif_pos hlt]
  have hset := Array.set_getElem_self hlt
  rw [hget] at hset
  rw [hset]

end Shape

section Rows

variable {previous : Option (Token σ)} {symbol : σ} {rest : List (Token σ)}

/-- A cell passes all checks, and is computed as it is without them. -/
theorem checkedCell_eq (hpattern : misplacedStar? tokens = none)
    (h : table.HasShape rows (tokens.length + 1)) (hi : i + 1 < rows)
    (hprevious : ∀ k, column = k + 1 → previous = tokens[k]?)
    (htoken : tokens[column]? = some token) :
    checkedCell tokens.toArray symbol ⟨i * (tokens.length + 1), tokens.length + 1⟩
        ⟨(i + 1) * (tokens.length + 1), tokens.length + 1⟩ table (column + 1) =
      .ok (cell (fun token => token.accepts symbol) table (i + 1) (column + 1) previous token) := by
  have hlt := (List.getElem?_eq_some_iff.mp htoken).1
  have hread : tokens.toArray[column]? = some token := List.getElem?_toArray.trans htoken
  rw [checkedCell, Checked.difference_eq (Nat.le_add_left _ _), Checked.ok_bind, Nat.add_sub_cancel,
    Checked.read_eq hread, Checked.ok_bind, cell]
  cases hstar : token.isStar with
  | false =>
    simp only [Bool.false_eq_true, if_false, Checked.read_eq hread, Checked.ok_bind, Nat.add_sub_cancel]
    cases token.accepts symbol with
    | false => rfl
    | true =>
      have hcell := getElem?_place h (Nat.lt_of_succ_lt hi) (Nat.lt_succ_of_lt hlt)
      rw [if_pos rfl, Checked.Part.place_eq (Nat.lt_succ_of_lt hlt), Checked.ok_bind,
        Checked.read_eq hcell, Bool.true_and]
      rfl
  | true =>
    obtain rfl := Token.isStar_iff.mp hstar
    obtain ⟨k, rfl⟩ := exists_eq_succ_of_star hpattern htoken
    obtain ⟨atom, hatom⟩ : ∃ atom, tokens[k]? = some atom :=
      ⟨tokens[k], List.getElem?_eq_getElem (by omega)⟩
    have hreadAtom : tokens.toArray[k]? = some atom := List.getElem?_toArray.trans hatom
    have hskipped : table.cells[(i + 1) * (tokens.length + 1) + k]? = some (table.holds (i + 1) k) :=
      getElem?_place h hi (by omega)
    have habove := getElem?_place h (Nat.lt_of_succ_lt hi) (Nat.succ_lt_succ hlt)
    have hoffset : k + 1 + 1 - 2 = k := by omega
    rw [if_pos rfl, if_pos rfl, Checked.difference_eq (by omega), Checked.ok_bind, hoffset,
      Checked.Part.place_eq (by simp only; omega), Checked.ok_bind, Checked.read_eq hskipped,
      Checked.ok_bind, hprevious k rfl, hatom, Option.any_some, id]
    cases table.holds (i + 1) k with
    | true => rfl
    | false =>
      rw [if_neg Bool.false_ne_true, Checked.read_eq hreadAtom, Checked.ok_bind, Bool.false_or]
      cases atom.accepts symbol with
      | false => rfl
      | true =>
        rw [if_pos rfl, Checked.Part.place_eq (Nat.succ_lt_succ hlt), Checked.ok_bind,
          Checked.read_eq habove, Bool.true_and]
        rfl

/-- A star in front has no column to fall back on, which is why no pattern begins with one. -/
example : checkedCell #[.star] 'a' ⟨0, 2⟩ ⟨2, 2⟩ (.filled 2 4 false) 1 = .error .underflow :=
  rfl

/-- A row passes all checks from any column on. -/
theorem checkedRow_eq (symbol : σ) (hpattern : misplacedStar? tokens = none)
    (h : table.HasShape rows (tokens.length + 1)) (hi : i + 1 < rows)
    (hprevious : ∀ k, column = k + 1 → previous = tokens[k]?) (hrest : tokens.drop column = rest) :
    checkedRow tokens.toArray symbol ⟨i * (tokens.length + 1), tokens.length + 1⟩
        ⟨(i + 1) * (tokens.length + 1), tokens.length + 1⟩ rest.length (column + 1) table =
      .ok (fillRow (fun token => token.accepts symbol) (i + 1) (column + 1) previous rest table) := by
  induction rest generalizing table column previous with
  | nil => rfl
  | cons token rest ih =>
    obtain ⟨htoken, hlt, hrest', hprevious'⟩ := of_drop_eq_cons hrest
    have hplace : (i + 1) * (tokens.length + 1) + (column + 1) < table.cells.size := by
      have hindex := h.index_lt hi (Nat.succ_lt_succ hlt)
      rwa [Grid.index, h.stride_eq] at hindex
    rw [List.length_cons, checkedRow, checkedCell_eq hpattern h hi hprevious htoken, Checked.ok_bind,
      Checked.Part.place_eq (Nat.succ_lt_succ hlt), Checked.ok_bind, Checked.write_eq hplace,
      Checked.ok_bind, fillRow, ← set_eq h]
    exact ih (h.set (i + 1) (column + 1) _) hprevious' hrest'

omit [BEq σ] in
/-- The first row passes all checks from any column on, if nothing in it holds from there on. A cell
that is not a star's is left alone where the row is filled with checks, and written as it is where it
is filled without. -/
theorem checkedFirstRow_eq (hpattern : misplacedStar? tokens = none)
    (h : table.HasShape rows (tokens.length + 1)) (hrows : 0 < rows)
    (hprevious : ∀ k, column = k + 1 → previous = tokens[k]?) (hrest : tokens.drop column = rest)
    (hfalse : ∀ j ≤ tokens.length, column < j → table.holds 0 j = false) :
    checkedFirstRow tokens.toArray rest.length (column + 1) table =
      .ok (fillRow (fun _ => false) 0 (column + 1) previous rest table) := by
  induction rest generalizing table column previous with
  | nil => rfl
  | cons token rest ih =>
    obtain ⟨htoken, hlt, hrest', hprevious'⟩ := of_drop_eq_cons hrest
    rw [List.length_cons, checkedFirstRow, Checked.difference_eq (Nat.le_add_left _ _),
      Checked.ok_bind, Nat.add_sub_cancel, Checked.read_eq (List.getElem?_toArray.trans htoken),
      Checked.ok_bind, fillRow, cell]
    cases hstar : token.isStar with
    | false =>
      have hset := set_false_eq h hrows (Nat.succ_lt_succ hlt) (hfalse _ hlt (Nat.lt_succ_self _))
      simp only [Bool.false_eq_true, if_false, Bool.false_and, hset]
      exact ih h hprevious' hrest' fun j hj hlt' => hfalse j hj (Nat.lt_of_succ_lt hlt')
    | true =>
      obtain rfl := Token.isStar_iff.mp hstar
      obtain ⟨k, rfl⟩ := exists_eq_succ_of_star hpattern htoken
      have hskipped : table.cells[0 * (tokens.length + 1) + k]? = some (table.holds 0 k) :=
        getElem?_place h hrows (by omega)
      have hplace : k + 2 < table.cells.size := by
        have hindex := h.index_lt hrows (Nat.succ_lt_succ hlt)
        rwa [Grid.index, Nat.zero_mul, Nat.zero_add] at hindex
      have hset := set_eq h 0 (k + 2) (table.holds 0 k)
      rw [Nat.zero_mul, Nat.zero_add] at hskipped hset
      have hoffset : k + 1 + 1 - 2 = k := by omega
      have hcell : (table.holds 0 k || (previous.any (fun _ => false) && table.holds (0 - 1) (k + 2))) =
          table.holds 0 k := by
        cases previous <;> simp
      rw [if_pos rfl, if_pos rfl, Checked.difference_eq (by omega), Checked.ok_bind, hoffset,
        Checked.read_eq hskipped, Checked.ok_bind, id, Checked.write_eq hplace, Checked.ok_bind,
        hcell, ← hset]
      refine ih (h.set 0 (k + 2) _) hprevious' hrest' ?_
      intro j hj hlt'
      rw [Table.holds, h.get?_set hrows (Nat.succ_lt_succ hlt) (Nat.lt_succ_of_le hj),
        if_neg (by omega)]
      exact hfalse j hj (by omega)

end Rows

section Loop

/-- The two rows that are cut out for a symbol lie in the table. -/
theorem checkedSymbolRow_eq (hpattern : misplacedStar? tokens = none)
    (hword : (haystack.length + 1) * (tokens.length + 1) ≤ wordMax)
    (h : table.HasShape (haystack.length + 1) (tokens.length + 1)) (hi : i < haystack.length) :
    checkedSymbolRow tokens.toArray haystack (tokens.length + 1) (i + 1) table =
      .ok (fillSymbolRow tokens (haystack.symbolAt ⟨i, hi⟩) (i + 1) table) := by
  have hrows := Checked.rows_le_wordMax hword
  have hsize : (i + 1 + 1) * (tokens.length + 1) ≤ table.size := by
    rw [h.size_eq]
    exact Nat.mul_le_mul_right _ (Nat.succ_le_succ hi)
  have hhigh : (i + 1 + 1) * (tokens.length + 1) =
      i * (tokens.length + 1) + (tokens.length + 1) + (tokens.length + 1) := by
    rw [Nat.succ_mul, Nat.succ_mul]
  have hsizeWord : table.size ≤ wordMax := h.size_eq ▸ hword
  have hprevious : ∀ k, 0 = k + 1 → (none : Option (Token σ)) = tokens[k]? := by simp
  have hrow := checkedRow_eq (haystack.symbolAt ⟨i, hi⟩) hpattern h (Nat.succ_lt_succ hi)
    hprevious List.drop_zero
  have hwidth : (i + 1 + 1) * (tokens.length + 1) - i * (tokens.length + 1) - (tokens.length + 1) =
      tokens.length + 1 := by omega
  rw [checkedSymbolRow, Checked.difference_eq (Nat.le_add_left _ _), Checked.ok_bind,
    Nat.add_sub_cancel]
  simp only [Haystack.get?, dif_pos hi]
  rw [Checked.product_eq (by omega), Checked.ok_bind, Checked.sum_eq (by omega), Checked.ok_bind,
    Checked.product_eq (by omega), Checked.ok_bind, Checked.Part.ofRange_eq (by omega) hsize,
    Checked.ok_bind, Checked.Part.split_eq (by simp only; omega), Checked.ok_bind]
  simp only [hwidth, Nat.add_sub_cancel, ← Nat.succ_mul]
  exact hrow

/-- The rows pass all checks, one after the other. -/
theorem checkedRows_eq (hpattern : misplacedStar? tokens = none)
    (hword : (haystack.length + 1) * (tokens.length + 1) ≤ wordMax) {first : Table}
    (hfirst : first.HasShape (haystack.length + 1) (tokens.length + 1)) :
    checkedRows tokens.toArray haystack (tokens.length + 1) first haystack.length =
      .ok (haystack.length.fold
        (fun i hi table => fillSymbolRow tokens (haystack.symbolAt ⟨i, hi⟩) (i + 1) table) first) := by
  let P (count : Nat) (table : Table) : Prop :=
    table.HasShape (haystack.length + 1) (tokens.length + 1) ∧
      checkedRows tokens.toArray haystack (tokens.length + 1) first count = .ok table
  have hround : ∀ i (hi : i < haystack.length) (table : Table), P i table →
      P (i + 1) (fillSymbolRow tokens (haystack.symbolAt ⟨i, hi⟩) (i + 1) table) := by
    rintro i hi table ⟨hshape, hrows⟩
    refine ⟨hasShape_fillRow hshape _ _ _ _ _, ?_⟩
    rw [checkedRows, hrows, Checked.ok_bind, checkedSymbolRow_eq hpattern hword hshape hi]
  have hstart : P 0 first := ⟨hfirst, rfl⟩
  exact (fold_induction hstart hround).2

end Loop

omit [BEq σ] in
/-- The first row passes all checks. It is begun at the second column, for what stands in front is no
star. -/
theorem checkedFirstRow_two_eq (p : Pattern σ)
    (h : table.HasShape rows (p.length + 1)) (hrows : 0 < rows)
    (hfalse : ∀ j ≤ p.tokens.length, 0 < j → table.holds 0 j = false) :
    checkedFirstRow p.tokens.toArray (p.length + 1 - 2) 2 table =
      .ok (fillRow (fun _ => false) 0 1 none p.tokens table) := by
  have hprevious : ∀ k, 0 = k + 1 → (none : Option (Token σ)) = p.tokens[k]? := by simp
  have hall := checkedFirstRow_eq p.wellFormed h hrows hprevious List.drop_zero hfalse
  rw [← hall, Pattern.length]
  cases hlength : p.tokens.length with
  | zero => rfl
  | succ n =>
    have hfront : p.tokens[0]? = some p.tokens[0] := List.getElem?_eq_getElem (by omega)
    have hnotStar := p.front_not_star
    rw [hfront, Option.any_some] at hnotStar
    have hskip : checkedFirstRow p.tokens.toArray (n + 1) (0 + 1) table =
        checkedFirstRow p.tokens.toArray n 2 table := by
      rw [checkedFirstRow, Checked.difference_eq (Nat.le_add_left _ _), Checked.ok_bind,
        Checked.read_eq (List.getElem?_toArray.trans hfront), Checked.ok_bind, hnotStar]
      rfl
    rw [hskip]
    rfl

omit [BEq σ] in
/-- At first, nothing holds but the cell in front. -/
theorem holds_start {columns j : Nat} (hrows : 0 < rows) (hj : j < columns) (hpos : 0 < j) :
    Table.holds (Grid.set (.filled columns (rows * columns) false) 0 0 true) 0 j = false := by
  have hshape := Grid.hasShape_filled rows columns false
  rw [Table.holds, hshape.get?_set hrows (Nat.lt_trans hpos hj) hj, if_neg (by omega),
    Grid.get?_filled]
  split <;> rfl

/-- The table is filled with all checks passed. -/
theorem checkedFill_eq (m : TableMatcher σ) (haystack : Haystack σ)
    (hword : (haystack.length + 1) * (m.pattern.length + 1) ≤ wordMax) {blank : Table}
    (hblank : blank = .filled (m.pattern.length + 1)
      ((haystack.length + 1) * (m.pattern.length + 1)) false) :
    m.checkedFill haystack (m.pattern.length + 1) blank = .ok (m.fill haystack blank) := by
  have hshape : blank.HasShape (haystack.length + 1) (m.pattern.length + 1) :=
    hblank ▸ Grid.hasShape_filled _ _ _
  have hstart := hshape.set 0 0 true
  have hset := set_eq hshape 0 0 true
  have hfront := hshape.index_lt (Nat.succ_pos _) (Nat.succ_pos _)
  rw [Grid.index, Nat.zero_mul] at hfront
  rw [Nat.zero_mul] at hset
  have hfalse : ∀ j ≤ m.pattern.tokens.length, 0 < j →
      Table.holds (Grid.set blank 0 0 true) 0 j = false := by
    intro j hj hpos
    rw [hblank]
    exact holds_start (Nat.succ_pos _) (Nat.lt_succ_of_le hj) hpos
  rw [checkedFill, Checked.write_eq hfront, Checked.ok_bind, ← hset,
    checkedFirstRow_two_eq m.pattern hstart (Nat.succ_pos _) hfalse, Checked.ok_bind]
  exact checkedRows_eq m.pattern.wellFormed hword (hasShape_fillRow hstart _ _ _ _ _)

/-- An admitted search passes all checks. -/
theorem checkedSearch_eq (m : TableMatcher σ) (cache : Cache) (haystack : Haystack σ)
    (hword : (haystack.length + 1) * (m.pattern.length + 1) ≤ wordMax)
    (hlimit : ∀ limit ∈ m.settings.tableSizeLimit,
      (haystack.length + 1) * (m.pattern.length + 1) ≤ limit) :
    m.checkedSearch cache haystack = .ok (m.search cache haystack) := by
  let blank : Table :=
    .filled (m.pattern.length + 1) ((haystack.length + 1) * (m.pattern.length + 1)) false
  have hcolumns := Checked.columns_le_wordMax hword
  have hfilled : (m.fill haystack blank).HasShape (haystack.length + 1) (m.pattern.length + 1) :=
    (rightUpTo_fill rfl).shape
  have hread := getElem?_place hfilled (Nat.lt_succ_self haystack.length)
    (Nat.lt_succ_self m.pattern.length)
  have hplace : haystack.length * (m.pattern.length + 1) + m.pattern.length <
      (haystack.length + 1) * (m.pattern.length + 1) := by
    rw [Nat.succ_mul]
    omega
  rw [checkedSearch, search, checkedCellCount_of_le hword hlimit]
  simp only [Checked.sum_eq hcolumns, Checked.ok_bind, Cache.setup_eq]
  rw [m.checkedFill_eq haystack hword rfl, Checked.ok_bind, Checked.product_eq (by omega),
    Checked.ok_bind, Checked.sum_eq (by omega), Checked.ok_bind, Checked.read_eq hread,
    Checked.ok_bind]
  rfl

end StarMatch.TableMatcher
