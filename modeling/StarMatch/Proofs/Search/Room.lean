import StarMatch.Search.Room

/-!
# Which searches there is no room for

The count of the cells of a table is right up to the largest word, where it stops. There is room for far
fewer cells than that, so an admitted search stops its caller exactly if its table has more than `roomMax`
of them, whether or not a word counts them all. A refused search asks for no memory.
-/

namespace StarMatch

universe u v

variable {haystackLength patternLength : Nat} {limit : Option Nat}

theorem roomMax_lt_wordMax : roomMax < wordMax := by decide

/-- The count stops at the largest word, wherever on the way to it a word is exceeded. -/
theorem cellCount_eq_min (haystackLength patternLength : Nat) :
    cellCount haystackLength patternLength =
      min ((haystackLength + 1) * (patternLength + 1)) wordMax := by
  by_cases hword : (haystackLength + 1) * (patternLength + 1) ≤ wordMax
  · rw [cellCount_of_le hword, Nat.min_eq_left hword]
  · have hfactors : wordMax ≤ min wordMax (haystackLength + 1) * min wordMax (patternLength + 1) := by
      have hpos : 0 < wordMax := by decide
      rcases Nat.le_total wordMax (haystackLength + 1) with hrows | hrows
      · rw [Nat.min_eq_left hrows]
        exact Nat.le_mul_of_pos_right _ (by omega)
      rcases Nat.le_total wordMax (patternLength + 1) with hcolumns | hcolumns
      · rw [Nat.min_eq_left hcolumns]
        exact Nat.le_mul_of_pos_left _ (by omega)
      · rw [Nat.min_eq_right hrows, Nat.min_eq_right hcolumns]
        omega
    rw [cellCount, Nat.min_eq_left hfactors]
    omega

/-- A table with more cells than a word counts is admitted with the largest word, unless a smaller
limit stops it. -/
theorem checkedCellCount_of_wordMax_lt (hlimit : ∀ l ∈ limit, wordMax ≤ l)
    (hcells : wordMax < (haystackLength + 1) * (patternLength + 1)) :
    checkedCellCount haystackLength patternLength limit = .ok wordMax := by
  have hcount : cellCount haystackLength patternLength = wordMax := by
    rw [cellCount_eq_min, Nat.min_eq_right (Nat.le_of_lt hcells)]
  cases limit with
  | none => rw [checkedCellCount, hcount]
  | some l => rw [checkedCellCount, hcount, if_neg (Nat.not_lt.mpr (hlimit l rfl))]

theorem roomPanic?_of_refused {refusal : TableTooBig}
    (h : checkedCellCount haystackLength patternLength limit = .error refusal) :
    roomPanic? haystackLength patternLength limit = none := by
  rw [roomPanic?, h]

theorem roomPanic?_of_admitted {cells : Nat}
    (h : checkedCellCount haystackLength patternLength limit = .ok cells) :
    roomPanic? haystackLength patternLength limit =
      if roomMax < cells then some (.text "capacity overflow") else none := by
  rw [roomPanic?, h]

/-- Exactly the searches over more than `roomMax` cells find no room, if the limit admits the count of
these cells. -/
theorem roomPanic?_eq_some_iff {panic : Panic} :
    roomPanic? haystackLength patternLength limit = some panic ↔
      roomMax < (haystackLength + 1) * (patternLength + 1) ∧
        (∀ l ∈ limit, min ((haystackLength + 1) * (patternLength + 1)) wordMax ≤ l) ∧
        panic = .text "capacity overflow" := by
  have hcount := cellCount_eq_min haystackLength patternLength
  have hword := roomMax_lt_wordMax
  cases hchecked : checkedCellCount haystackLength patternLength limit with
  | error refusal =>
    obtain ⟨l, rfl, hl, -⟩ := exists_limit_of_refused hchecked
    rw [roomPanic?_of_refused hchecked]
    simp only [reduceCtorEq, false_iff]
    rintro ⟨-, hlimit, -⟩
    exact Nat.not_lt.mpr (hlimit l rfl) (hcount ▸ hl)
  | ok cells =>
    have hcells := eq_cellCount_of_checked hchecked
    have hlimit : ∀ l ∈ limit, min ((haystackLength + 1) * (patternLength + 1)) wordMax ≤ l := by
      rintro l rfl
      rw [checkedCellCount] at hchecked
      split at hchecked
      · cases hchecked
      · omega
    rw [roomPanic?_of_admitted hchecked]
    split
    · have hroom : roomMax < (haystackLength + 1) * (patternLength + 1) := by omega
      rw [Option.some.injEq, eq_comm]
      exact ⟨fun hpanic => ⟨hroom, hlimit, hpanic⟩, fun h => h.2.2⟩
    · have hroom : ¬ roomMax < (haystackLength + 1) * (patternLength + 1) := by omega
      simp [hroom]

/-- There is room for every table of up to `roomMax` cells. -/
theorem roomPanic?_of_le (hroom : (haystackLength + 1) * (patternLength + 1) ≤ roomMax) :
    roomPanic? haystackLength patternLength limit = none := by
  rw [Option.eq_none_iff_forall_ne_some]
  intro panic hpanic
  exact Nat.not_lt.mpr hroom (roomPanic?_eq_some_iff.mp hpanic).1

/-- There is no room for a larger table, where the limit admits it. -/
theorem roomPanic?_of_lt (hlimit : ∀ l ∈ limit, (haystackLength + 1) * (patternLength + 1) ≤ l)
    (hroom : roomMax < (haystackLength + 1) * (patternLength + 1)) :
    roomPanic? haystackLength patternLength limit = some (.text "capacity overflow") :=
  roomPanic?_eq_some_iff.mpr
    ⟨hroom, fun l hl => Nat.le_trans (Nat.min_le_left _ _) (hlimit l hl), rfl⟩

/-- A word counts the cells of a table that an admitted search has room for. -/
theorem cells_le_wordMax_of_room {cells : Nat}
    (hroom : roomPanic? haystackLength patternLength limit = none)
    (hadmitted : checkedCellCount haystackLength patternLength limit = .ok cells) :
    (haystackLength + 1) * (patternLength + 1) ≤ wordMax := by
  rw [roomPanic?_of_admitted hadmitted] at hroom
  split at hroom
  · cases hroom
  · have hcells := eq_cellCount_of_checked hadmitted
    have hword := roomMax_lt_wordMax
    rw [cellCount_eq_min] at hcells
    omega

section Search

variable {σ : Type u} {κ : Type v} {haystack : Haystack σ} (search : Haystack σ → Outcome κ)

theorem searchInRoom_of_room (h : roomPanic? haystack.length patternLength limit = none) :
    searchInRoom search patternLength limit haystack = .ok (search haystack) := by
  rw [searchInRoom, h]

theorem searchInRoom_of_panic {panic : Panic}
    (h : roomPanic? haystack.length patternLength limit = some panic) :
    searchInRoom search patternLength limit haystack = .error panic := by
  rw [searchInRoom, h]

/-- A search returns exactly if there is room. -/
theorem searchInRoom_eq_ok_iff {outcome : Outcome κ} :
    searchInRoom search patternLength limit haystack = .ok outcome ↔
      roomPanic? haystack.length patternLength limit = none ∧ search haystack = outcome := by
  cases h : roomPanic? haystack.length patternLength limit with
  | none => rw [searchInRoom_of_room search h]; simp
  | some panic => rw [searchInRoom_of_panic search h]; simp

/-- An admitted search goes on exactly if there is room for its table. -/
theorem searchInRoom_of_admitted {cells : Nat}
    (h : checkedCellCount haystack.length patternLength limit = .ok cells) :
    searchInRoom search patternLength limit haystack =
      if roomMax < cells then .error (.text "capacity overflow") else .ok (search haystack) := by
  have hpanic := roomPanic?_of_admitted h
  by_cases hroom : roomMax < cells
  · rw [if_pos hroom] at hpanic ⊢
    exact searchInRoom_of_panic search hpanic
  · rw [if_neg hroom] at hpanic ⊢
    exact searchInRoom_of_room search hpanic

/-- There is no room for a table with more cells than a word counts. -/
theorem searchInRoom_of_wordMax_lt (hlimit : ∀ l ∈ limit, wordMax ≤ l)
    (hcells : wordMax < (haystack.length + 1) * (patternLength + 1)) :
    searchInRoom search patternLength limit haystack = .error (.text "capacity overflow") := by
  rw [searchInRoom_of_admitted search (checkedCellCount_of_wordMax_lt hlimit hcells),
    if_pos roomMax_lt_wordMax]

end Search

end StarMatch
