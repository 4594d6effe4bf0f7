import StarMatch.Proofs.Pattern.Parts
import StarMatch.Proofs.Search.Scratch

/-!
# The cells that a search leaves

A search by the table engine leaves its whole table behind. It has one cell for each front of the
haystack and each front of the pattern, which says whether the one matches the other, and the verdict
is the cell of the whole haystack and the whole pattern.
-/

namespace StarMatch

universe u

theorem Grid.HasShape.exists_get? {α : Type u} {g : Grid α} {rows columns row column : Nat}
    (h : g.HasShape rows columns) (hrow : row < rows) (hcolumn : column < columns) :
    ∃ x, g.get? row column = some x :=
  ⟨_, Array.getElem?_eq_getElem (h.index_lt hrow hcolumn)⟩

namespace TableMatcher

variable {σ : Type u} [BEq σ]

/-- After an admitted search, the table has a cell for each number of symbols and each number of
tokens. It says whether the front of the haystack of that length matches the pattern made of that many
tokens, and the last cell is the verdict. -/
theorem search_leaves_fronts_decided (m : TableMatcher σ) (cache : Cache) (haystack : Haystack σ)
    (hword : (haystack.length + 1) * (m.pattern.length + 1) ≤ wordMax)
    (hlimit : ∀ limit ∈ m.settings.tableSizeLimit,
      (haystack.length + 1) * (m.pattern.length + 1) ≤ limit) :
    let table := (m.search cache haystack).cache.table
    table.HasShape (haystack.length + 1) (m.pattern.length + 1) ∧
    (∀ i ≤ haystack.length, ∀ j ≤ m.pattern.length, ∃ content, table.get? i j = some content ∧
      (content = true ↔ (m.pattern.take j).Matches (haystack.toList.take i))) ∧
    ∃ verdict, table.get? haystack.length m.pattern.length = some verdict ∧
      (m.search cache haystack).verdict = .ok verdict := by
  intro table
  have hsearch := m.search_of_admitted haystack cache (checkedCellCount_of_le hword hlimit)
  have hverdict : (m.search cache haystack).verdict =
      .ok (table.holds haystack.length m.pattern.length) := by
    simp only [table, hsearch]
  have hfilled : table.RightUpTo m.pattern.tokens haystack (haystack.length + 1) 1 := by
    simp only [table, hsearch]
    exact rightUpTo_fill rfl
  have hcell : ∀ i ≤ haystack.length, ∀ j ≤ m.pattern.length,
      ∃ content, table.get? i j = some content := by
    intro i hi j hj
    exact hfilled.shape.exists_get? (Nat.lt_succ_of_le hi) (Nat.lt_succ_of_le hj)
  refine ⟨hfilled.shape, ?_, ?_⟩
  · intro i hi j hj
    obtain ⟨content, hcontent⟩ := hcell i hi j hj
    have hright := hfilled.right i hi j hj (.inr (.inl (Nat.lt_succ_of_le hi)))
    rw [Table.holds, hcontent, Option.getD_some] at hright
    exact ⟨content, hcontent, hright⟩
  · obtain ⟨verdict, hlast⟩ := hcell _ (Nat.le_refl _) _ (Nat.le_refl _)
    refine ⟨verdict, hlast, ?_⟩
    rw [hverdict, Table.holds, hlast, Option.getD_some]

/-- A token that the pattern repeats stands once in the front that ends before its star. -/
theorem search_leaves_fronts_decided_cut_off_star :
    let m : TableMatcher UInt8 := ⟨{ tableSizeLimit? := some (some 12) }, ⟨[.lit 97, .star, .any], rfl⟩⟩
    let cache : Cache := ⟨.filled 5 40 true, 40⟩
    let haystack : Haystack UInt8 := .ofList [97, 97]
    (haystack.length + 1) * (m.pattern.length + 1) ≤ wordMax ∧
      (∀ limit ∈ m.settings.tableSizeLimit,
        (haystack.length + 1) * (m.pattern.length + 1) ≤ limit) ∧
      ¬ (m.pattern.take 1).Matches [97, 97] ∧ (m.pattern.take 2).Matches [97, 97] ∧
      (m.search cache haystack).verdict = .ok true := by
  intro m cache haystack
  have hword : (haystack.length + 1) * (m.pattern.length + 1) ≤ wordMax := by decide
  have hlimit : ∀ limit ∈ m.settings.tableSizeLimit,
      (haystack.length + 1) * (m.pattern.length + 1) ≤ limit := by decide
  obtain ⟨-, hcells, verdict, hlast, hverdict⟩ :=
    search_leaves_fronts_decided m cache haystack hword hlimit
  obtain ⟨single, hsingle, hsingleMatches⟩ := hcells 2 (by decide) 1 (by decide)
  obtain ⟨repeated, hrepeated, hrepeatedMatches⟩ := hcells 2 (by decide) 2 (by decide)
  have hsymbols : haystack.toList.take 2 = [97, 97] := by
    rw [Haystack.toList_ofList]
    rfl
  have hreadSingle : (m.search cache haystack).cache.table.get? 2 1 = some false := by
    decide +kernel
  have hreadRepeated : (m.search cache haystack).cache.table.get? 2 2 = some true := by
    decide +kernel
  have hreadLast : (m.search cache haystack).cache.table.get? 2 3 = some true := by
    decide +kernel
  obtain rfl : false = single := Option.some.inj (hreadSingle.symm.trans hsingle)
  obtain rfl : true = repeated := Option.some.inj (hreadRepeated.symm.trans hrepeated)
  obtain rfl : true = verdict := Option.some.inj (hreadLast.symm.trans hlast)
  refine ⟨hword, hlimit, ?_, ?_, hverdict⟩
  · rw [← hsymbols, ← hsingleMatches]
    decide
  · rw [← hsymbols]
    exact hrepeatedMatches.mp rfl

end TableMatcher

end StarMatch
