import StarMatch.Proofs.Search.Filling
import StarMatch.Search.Backtrack

/-!
# What a search leaves in its scratch space

A search makes its scratch space ready before it reads any of it, so nothing of an earlier search has
a part in its verdict. A refused search does not touch the space. An admitted one leaves a cell in it
at least, and holds the memory for that from then on.
-/

namespace StarMatch

universe u

variable {σ : Type u} [BEq σ]

namespace Backtracker

/-- Memory is held exactly if there are cells, which is what a copy relies on. -/
def Cache.Backed (c : Cache) : Prop :=
  c.room = 0 ↔ c.memo.size = 0

section Run

variable (tokens : Array (Token σ)) (haystack : Haystack σ) (run : Run)

theorem Run.size_memo_advance : (run.advance tokens haystack).memo.size = run.memo.size := by
  obtain ⟨_ | ⟨s, below⟩, memo, evaluated⟩ := run
  · rfl
  · rw [advance]
    split
    · rfl
    · split
      · exact Grid.size_set memo _ _ _
      · rfl

theorem Run.size_memo_finish (fuel : Nat) :
    (run.finish tokens haystack fuel).memo.size = run.memo.size := by
  induction fuel generalizing run with
  | zero => rfl
  | succ fuel ih =>
    rw [finish]
    split
    · rfl
    · rw [ih, size_memo_advance]

end Run

variable (b : Backtracker σ) (haystack : Haystack σ)

theorem search_of_refused (cache : Cache) {refusal : TableTooBig}
    (h : checkedCellCount haystack.length b.pattern.length b.settings.tableSizeLimit =
      .error refusal) :
    b.search cache haystack = ⟨.error refusal, cache, []⟩ := by
  simp only [search, h]

theorem search_of_admitted (cache : Cache) {cells : Nat}
    (h : checkedCellCount haystack.length b.pattern.length b.settings.tableSizeLimit = .ok cells) :
    b.search cache haystack =
      let finished := b.run haystack (cache.setup cells (b.pattern.length + 1))
      ⟨.ok (finished.memo.verdict? ⟨0, 0⟩ == some true),
        ⟨finished.pending, finished.memo, max cache.room cells⟩,
        [.backtrackEvaluated finished.evaluated cells]⟩ := by
  simp only [search, h, Cache.setup_eq]

/-- The verdict of a search is that of the same search in a new cache. -/
theorem verdict_search_eq_new (cache : Cache) :
    (b.search cache haystack).verdict = (b.search {} haystack).verdict := by
  cases hchecked : checkedCellCount haystack.length b.pattern.length b.settings.tableSizeLimit with
  | error refusal =>
    rw [search_of_refused b haystack cache hchecked, search_of_refused b haystack {} hchecked]
  | ok cells => simp only [search_of_admitted b haystack _ hchecked, run, Run.start, Cache.setup_eq]

/-- An admitted search leaves its table in the cache, and the memory for it. -/
theorem cache_search_of_admitted (cache : Cache) {cells : Nat}
    (h : checkedCellCount haystack.length b.pattern.length b.settings.tableSizeLimit = .ok cells) :
    (b.search cache haystack).cache.memo.size = cells ∧
      (b.search cache haystack).cache.room = max cache.room cells := by
  simp only [search_of_admitted b haystack cache h, run, Run.size_memo_finish, Run.start,
    Cache.setup_eq, Grid.size_filled, and_self]

theorem backed_search {cache : Cache} (hbacked : cache.Backed) :
    (b.search cache haystack).cache.Backed := by
  cases hchecked : checkedCellCount haystack.length b.pattern.length b.settings.tableSizeLimit with
  | error refusal =>
    rw [search_of_refused b haystack cache hchecked]
    exact hbacked
  | ok cells =>
    have hcells : 0 < cells := cells_pos_of_checked hchecked
    obtain ⟨hsize, hroom⟩ := cache_search_of_admitted b haystack cache hchecked
    rw [Cache.Backed, hsize, hroom]
    omega

end Backtracker

namespace TableMatcher

/-- Memory is held exactly if there are cells, which is what a copy relies on. -/
def Cache.Backed (c : Cache) : Prop :=
  c.room = 0 ↔ c.table.size = 0

omit [BEq σ] in
theorem size_fillRow (accepts : Token σ → Bool) (row column : Nat) (previous : Option (Token σ))
    (tokens : List (Token σ)) (table : Table) :
    (fillRow accepts row column previous tokens table).size = table.size := by
  induction tokens generalizing column previous table with
  | nil => rfl
  | cons token rest ih => rw [fillRow, ih, Grid.size_set]

variable (m : TableMatcher σ) (haystack : Haystack σ)

theorem size_fill (blank : Table) : (m.fill haystack blank).size = blank.size := by
  let P (_ : Nat) (table : Table) : Prop := table.size = blank.size
  have hfirst : P 0 (fillRow (fun _ => false) 0 1 none m.pattern.tokens (blank.set 0 0 true)) :=
    (size_fillRow _ _ _ _ _ _).trans (Grid.size_set blank 0 0 true)
  have hround : ∀ i (hi : i < haystack.length) (table : Table), P i table →
      P (i + 1) (fillSymbolRow m.pattern.tokens (haystack.symbolAt ⟨i, hi⟩) (i + 1) table) := by
    intro i hi table hsize
    exact (size_fillRow _ _ _ _ _ _).trans hsize
  exact fold_induction hfirst hround

theorem search_of_refused (cache : Cache) {refusal : TableTooBig}
    (h : checkedCellCount haystack.length m.pattern.length m.settings.tableSizeLimit =
      .error refusal) :
    m.search cache haystack = ⟨.error refusal, cache, []⟩ := by
  simp only [search, h]

theorem search_of_admitted (cache : Cache) {cells : Nat}
    (h : checkedCellCount haystack.length m.pattern.length m.settings.tableSizeLimit = .ok cells) :
    m.search cache haystack =
      let table := m.fill haystack (.filled (m.pattern.length + 1) cells false)
      ⟨.ok (table.holds haystack.length m.pattern.length), ⟨table, max cache.room cells⟩,
        [.tableFilled cells]⟩ := by
  simp only [search, h, Cache.setup_eq]

/-- The verdict of a search is that of the same search in a new cache. -/
theorem verdict_search_eq_new (cache : Cache) :
    (m.search cache haystack).verdict = (m.search {} haystack).verdict := by
  cases hchecked : checkedCellCount haystack.length m.pattern.length m.settings.tableSizeLimit with
  | error refusal =>
    rw [search_of_refused m haystack cache hchecked, search_of_refused m haystack {} hchecked]
  | ok cells => simp only [search_of_admitted m haystack _ hchecked]

/-- An admitted search leaves its table in the cache, and the memory for it. -/
theorem cache_search_of_admitted (cache : Cache) {cells : Nat}
    (h : checkedCellCount haystack.length m.pattern.length m.settings.tableSizeLimit = .ok cells) :
    (m.search cache haystack).cache.table.size = cells ∧
      (m.search cache haystack).cache.room = max cache.room cells := by
  simp only [search_of_admitted m haystack cache h, size_fill, Grid.size_filled, and_self]

theorem backed_search {cache : Cache} (hbacked : cache.Backed) :
    (m.search cache haystack).cache.Backed := by
  cases hchecked : checkedCellCount haystack.length m.pattern.length m.settings.tableSizeLimit with
  | error refusal =>
    rw [search_of_refused m haystack cache hchecked]
    exact hbacked
  | ok cells =>
    have hcells : 0 < cells := cells_pos_of_checked hchecked
    obtain ⟨hsize, hroom⟩ := cache_search_of_admitted m haystack cache hchecked
    rw [Cache.Backed, hsize, hroom]
    omega

end TableMatcher

end StarMatch
