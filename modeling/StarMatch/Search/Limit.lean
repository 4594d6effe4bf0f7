import StarMatch.Panic

/-!
# The size of a search

A search over a haystack and a pattern works on a table with one row per number of consumed symbols
and one column per number of passed tokens. The number of its cells is counted in a machine word
that stays at its largest value instead of wrapping around, and a search is refused when the count
exceeds the limit it was given.
-/

namespace StarMatch

/-- The largest number that a machine word holds. -/
def wordMax : Nat :=
  UInt64.size - 1

/-- The number of cells of the table, or the largest word if there are more. -/
def cellCount (haystackLength patternLength : Nat) : Nat :=
  min wordMax (min wordMax (haystackLength + 1) * min wordMax (patternLength + 1))

/-- The count is exact as long as a machine word holds it. -/
theorem cellCount_of_le {haystackLength patternLength : Nat}
    (h : (haystackLength + 1) * (patternLength + 1) ≤ wordMax) :
    cellCount haystackLength patternLength = (haystackLength + 1) * (patternLength + 1) := by
  have hrows : haystackLength + 1 ≤ wordMax :=
    Nat.le_trans (Nat.le_mul_of_pos_right _ (Nat.succ_pos _)) h
  have hcolumns : patternLength + 1 ≤ wordMax :=
    Nat.le_trans (Nat.le_mul_of_pos_left _ (Nat.succ_pos _)) h
  rw [cellCount, Nat.min_eq_right hrows, Nat.min_eq_right hcolumns, Nat.min_eq_right h]

/-- Every table has at least one cell. -/
theorem cellCount_pos (haystackLength patternLength : Nat) :
    0 < cellCount haystackLength patternLength := by
  have hword : 0 < wordMax := by decide
  have hproduct : 0 < min wordMax (haystackLength + 1) * min wordMax (patternLength + 1) :=
    Nat.mul_pos (by omega) (by omega)
  unfold cellCount
  omega

/-- A search was refused: its table would have more cells than the limit allows. -/
structure TableTooBig where
  cells : Nat
  limit : Nat
  deriving DecidableEq, Repr

namespace TableTooBig

/-- The message shown to a user. -/
def message (e : TableTooBig) : String :=
  "search needs a table of " ++ toString e.cells ++ " cells, which exceeds the limit of " ++
    toString e.limit

/-- The stop of a caller who asked for a verdict and left the refusal unhandled. -/
def panic (e : TableTooBig) : Panic :=
  .text ("called `Result::unwrap()` on an `Err` value: TableTooBig \x7b cells: " ++
    toString e.cells ++ ", limit: " ++ toString e.limit ++ " \x7d")

end TableTooBig

/-- The number of cells of an admitted search, where no limit admits every search. -/
def checkedCellCount (haystackLength patternLength : Nat) : Option Nat → Except TableTooBig Nat
  | none => .ok (cellCount haystackLength patternLength)
  | some limit =>
    if limit < cellCount haystackLength patternLength then
      .error ⟨cellCount haystackLength patternLength, limit⟩
    else
      .ok (cellCount haystackLength patternLength)

/-- A search that is admitted gets the cells that were counted. -/
theorem eq_cellCount_of_checked {haystackLength patternLength cells : Nat} {limit : Option Nat}
    (h : checkedCellCount haystackLength patternLength limit = .ok cells) :
    cells = cellCount haystackLength patternLength := by
  cases limit with
  | none => exact (Except.ok.inj h).symm
  | some limit =>
    simp only [checkedCellCount] at h
    split at h
    · cases h
    · exact (Except.ok.inj h).symm

/-- A search that is admitted gets at least one cell. -/
theorem cells_pos_of_checked {haystackLength patternLength cells : Nat} {limit : Option Nat}
    (h : checkedCellCount haystackLength patternLength limit = .ok cells) : 0 < cells := by
  rw [eq_cellCount_of_checked h]
  exact cellCount_pos haystackLength patternLength

/-- A search is refused for having more cells than the limit. -/
theorem exists_limit_of_refused {haystackLength patternLength : Nat} {limit : Option Nat}
    {refusal : TableTooBig}
    (h : checkedCellCount haystackLength patternLength limit = .error refusal) :
    ∃ l, limit = some l ∧ l < cellCount haystackLength patternLength ∧
      refusal = ⟨cellCount haystackLength patternLength, l⟩ := by
  cases limit with
  | none => cases h
  | some l =>
    simp only [checkedCellCount] at h
    split at h
    · next hl => exact ⟨l, rfl, hl, (Except.error.inj h).symm⟩
    · cases h

/-- A search whose table fits the limit, if there is one, is admitted with exactly the cells of its
table. -/
theorem checkedCellCount_of_le {haystackLength patternLength : Nat} {limit : Option Nat}
    (hword : (haystackLength + 1) * (patternLength + 1) ≤ wordMax)
    (hlimit : ∀ l ∈ limit, (haystackLength + 1) * (patternLength + 1) ≤ l) :
    checkedCellCount haystackLength patternLength limit =
      .ok ((haystackLength + 1) * (patternLength + 1)) := by
  cases limit with
  | none => rw [checkedCellCount, cellCount_of_le hword]
  | some l =>
    have hl : (haystackLength + 1) * (patternLength + 1) ≤ l := hlimit l rfl
    rw [checkedCellCount, cellCount_of_le hword, if_neg (Nat.not_lt.mpr hl)]

end StarMatch
