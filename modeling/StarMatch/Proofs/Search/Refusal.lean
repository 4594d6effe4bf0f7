import StarMatch.Proofs.Search.Room
import StarMatch.Proofs.Search.Scratch

/-!
# Which searches are refused

The cells of a table are counted in a machine word that stops at its largest value. The count is right
up to there, so below it a limit refuses exactly the tables that have more cells. A limit that is the
largest word itself is never exceeded by a count, and refuses nothing.
-/

namespace StarMatch

universe u

variable {haystackLength patternLength limit : Nat}

theorem checkedCellCount_eq_error_iff {refusal : TableTooBig} :
    checkedCellCount haystackLength patternLength (some limit) = .error refusal ↔
      limit < (haystackLength + 1) * (patternLength + 1) ∧ limit < wordMax ∧
        refusal = ⟨min ((haystackLength + 1) * (patternLength + 1)) wordMax, limit⟩ := by
  rw [checkedCellCount, cellCount_eq_min]
  split
  · next hlimit =>
    rw [Nat.lt_min] at hlimit
    simp [hlimit, eq_comm]
  · next hlimit =>
    rw [Nat.lt_min] at hlimit
    simp only [reduceCtorEq, false_iff]
    rintro ⟨hcells, hword, -⟩
    exact hlimit ⟨hcells, hword⟩

theorem checkedCellCount_eq_ok_iff {count : Nat} :
    checkedCellCount haystackLength patternLength (some limit) = .ok count ↔
      ((haystackLength + 1) * (patternLength + 1) ≤ limit ∨ wordMax ≤ limit) ∧
        count = min ((haystackLength + 1) * (patternLength + 1)) wordMax := by
  rw [checkedCellCount, cellCount_eq_min]
  split
  · next hlimit =>
    rw [Nat.lt_min] at hlimit
    simp only [reduceCtorEq, false_iff]
    rintro ⟨hcells | hword, -⟩
    · exact Nat.not_lt.mpr hcells hlimit.1
    · exact Nat.not_lt.mpr hword hlimit.2
  · next hlimit =>
    have hadmitted : (haystackLength + 1) * (patternLength + 1) ≤ limit ∨ wordMax ≤ limit := by
      rw [Nat.lt_min] at hlimit
      omega
    simp [hadmitted, eq_comm]

section Engines

variable {σ : Type u} [BEq σ] {haystack : Haystack σ} {refusal : TableTooBig}

theorem Backtracker.verdict_search_eq_error_iff {b : Backtracker σ} {cache : Cache} :
    (b.search cache haystack).verdict = .error refusal ↔
      checkedCellCount haystack.length b.pattern.length b.settings.tableSizeLimit =
        .error refusal := by
  cases hchecked : checkedCellCount haystack.length b.pattern.length b.settings.tableSizeLimit with
  | error refusal' => rw [search_of_refused b haystack cache hchecked]; simp
  | ok cells => rw [search_of_admitted b haystack cache hchecked]; simp

theorem TableMatcher.verdict_search_eq_error_iff {m : TableMatcher σ} {cache : Cache} :
    (m.search cache haystack).verdict = .error refusal ↔
      checkedCellCount haystack.length m.pattern.length m.settings.tableSizeLimit =
        .error refusal := by
  cases hchecked : checkedCellCount haystack.length m.pattern.length m.settings.tableSizeLimit with
  | error refusal' => rw [search_of_refused m haystack cache hchecked]; simp
  | ok cells => rw [search_of_admitted m haystack cache hchecked]; simp

end Engines

namespace SearchBuilder

variable {σ : Type u} [BEq σ]

/-- Under a limit below the largest word, both engines refuse exactly the searches whose tables have
more cells, and report the number of cells, or the largest word if there are more, and the limit; the
others are admitted with as many cells as the table has. The largest word as a limit refuses nothing:
it admits tables with more cells than a word counts, which stop the caller for want of room. -/
theorem refused_iff_limit_lt (builder : SearchBuilder) (limit : Nat) (p : Pattern σ)
    (haystack : Haystack σ) (cache : Backtracker.Cache) (cache' : TableMatcher.Cache) :
    let b := builder.configure { tableSizeLimit? := some (some limit) }
    let cells := (haystack.length + 1) * (p.length + 1)
    (∀ refusal, ((Backtracker.ofPattern b p).search cache haystack).verdict = .error refusal ↔
      limit < cells ∧ limit < wordMax ∧ refusal = ⟨min cells wordMax, limit⟩) ∧
    (∀ refusal, ((TableMatcher.ofPattern b p).search cache' haystack).verdict = .error refusal ↔
      limit < cells ∧ limit < wordMax ∧ refusal = ⟨min cells wordMax, limit⟩) ∧
    (∀ count, checkedCellCount haystack.length p.length (some limit) = .ok count →
      count = min cells wordMax ∧ (limit < wordMax → count = cells)) ∧
    (wordMax ≤ limit → wordMax < cells →
      searchInRoom (Backtracker.ofPattern b p).isMatch p.length (some limit) haystack =
        .error (.text "capacity overflow") ∧
      searchInRoom (TableMatcher.ofPattern b p).isMatch p.length (some limit) haystack =
        .error (.text "capacity overflow")) := by
  intro b cells
  refine ⟨?_, ?_, ?_, ?_⟩
  · intro refusal
    exact Backtracker.verdict_search_eq_error_iff.trans checkedCellCount_eq_error_iff
  · intro refusal
    exact TableMatcher.verdict_search_eq_error_iff.trans checkedCellCount_eq_error_iff
  · intro count hcount
    obtain ⟨hadmitted, rfl⟩ := checkedCellCount_eq_ok_iff.mp hcount
    refine ⟨rfl, ?_⟩
    intro hword
    exact Nat.min_eq_left (by omega)
  · intro hlimit hcells
    have hlargest : ∀ l ∈ some limit, wordMax ≤ l := by
      rintro l ⟨⟩
      exact hlimit
    exact ⟨searchInRoom_of_wordMax_lt _ hlargest hcells, searchInRoom_of_wordMax_lt _ hlargest hcells⟩

/-- A count that stops at the largest word is still above the largest limit but one, a table that fits
its limit has its own number of cells, and the largest limit lets more cells pass than there is room
for. -/
theorem refused_iff_limit_lt_largest_haystack :
    let builder : SearchBuilder := { settings := { tableSizeLimit? := some none } }
    let p : Pattern Unit := ⟨[.any], rfl⟩
    let haystack : Haystack Unit := .replicate wordMax ()
    let b := builder.configure { tableSizeLimit? := some (some (wordMax - 1)) }
    let largest := builder.configure { tableSizeLimit? := some (some wordMax) }
    ((Backtracker.ofPattern b p).search {} haystack).verdict = .error ⟨wordMax, wordMax - 1⟩ ∧
      ((TableMatcher.ofPattern b p).search {} haystack).verdict = .error ⟨wordMax, wordMax - 1⟩ ∧
      checkedCellCount 2 p.length (some 6) = .ok ((2 + 1) * (p.length + 1)) ∧
      searchInRoom (TableMatcher.ofPattern largest p).isMatch p.length (some wordMax) haystack =
        .error (.text "capacity overflow") := by
  intro builder p haystack b largest
  have hcells : wordMax < (haystack.length + 1) * (p.length + 1) := by decide
  obtain ⟨hbacktracker, htable, -, -⟩ :=
    refused_iff_limit_lt builder (wordMax - 1) p haystack {} {}
  obtain ⟨-, -, hcount, -⟩ := refused_iff_limit_lt builder 6 p (.replicate 2 ()) {} {}
  obtain ⟨-, -, -, hroom⟩ := refused_iff_limit_lt builder wordMax p haystack {} {}
  have hadmitted : checkedCellCount 2 p.length (some 6) = .ok 6 := rfl
  have hexact : 6 = (2 + 1) * (p.length + 1) := (hcount 6 hadmitted).2 (by decide)
  have hrefusal : (⟨wordMax, wordMax - 1⟩ : TableTooBig) =
      ⟨min ((haystack.length + 1) * (p.length + 1)) wordMax, wordMax - 1⟩ := by decide
  have hbelow : wordMax - 1 < wordMax := Nat.sub_lt (by decide) Nat.one_pos
  have habove : wordMax - 1 < (haystack.length + 1) * (p.length + 1) := Nat.lt_trans hbelow hcells
  exact ⟨(hbacktracker _).mpr ⟨habove, hbelow, hrefusal⟩, (htable _).mpr ⟨habove, hbelow, hrefusal⟩,
    hexact ▸ hadmitted, (hroom (Nat.le_refl _) hcells).2⟩

/-- A table of one cell more than the largest word is not refused under the largest word as a limit. It
is admitted with one cell less than it has, and there is no room even for those. -/
theorem largest_limit_refuses_nothing :
    let p : Pattern Unit := .empty
    let haystack : Haystack Unit := .replicate wordMax ()
    let b : SearchBuilder := { settings := { tableSizeLimit? := some (some wordMax) } }
    wordMax < (haystack.length + 1) * (p.length + 1) ∧
      (∀ refusal, ((Backtracker.ofPattern b p).search {} haystack).verdict ≠ .error refusal) ∧
      (∀ refusal, ((TableMatcher.ofPattern b p).search {} haystack).verdict ≠ .error refusal) ∧
      checkedCellCount haystack.length p.length (some wordMax) = .ok wordMax ∧
      searchInRoom (TableMatcher.ofPattern b p).isMatch p.length (some wordMax) haystack =
        .error (.text "capacity overflow") := by
  intro p haystack b
  have hcells : wordMax < (haystack.length + 1) * (p.length + 1) := by decide
  have hlargest : ∀ l ∈ some wordMax, wordMax ≤ l := by
    rintro l ⟨⟩
    exact Nat.le_refl _
  have hadmitted := checkedCellCount_of_wordMax_lt hlargest hcells
  have hpasses : ∀ refusal,
      checkedCellCount haystack.length p.length (some wordMax) ≠ .error refusal := by
    intro refusal hrefused
    rw [hadmitted] at hrefused
    cases hrefused
  refine ⟨hcells, ?_, ?_, hadmitted, searchInRoom_of_wordMax_lt _ hlargest hcells⟩
  · intro refusal
    rw [Ne, Backtracker.verdict_search_eq_error_iff]
    exact hpasses refusal
  · intro refusal
    rw [Ne, TableMatcher.verdict_search_eq_error_iff]
    exact hpasses refusal

end SearchBuilder

end StarMatch
