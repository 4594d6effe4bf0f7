import Mathlib.Data.Finset.Card
import Mathlib.Data.Finset.Prod
import StarMatch.Search.Backtrack

/-!
# The verdicts of a search

A search has one state for each number of consumed symbols and each number of passed tokens, and the
grid of verdicts has one cell for each state. So a verdict is read where it was recorded and nowhere
else, and the states that have one can be counted.
-/

namespace StarMatch.Backtracker

/-- The states of a search over the given lengths. -/
def states (haystackLength patternLength : Nat) : Finset State :=
  (Finset.range (haystackLength + 1) ×ˢ Finset.range (patternLength + 1)).map
    ⟨fun place => ⟨place.1, place.2⟩, fun _ _ h => Prod.ext (State.mk.inj h).1 (State.mk.inj h).2⟩

@[simp] theorem mem_states {haystackLength patternLength : Nat} {s : State} :
    s ∈ states haystackLength patternLength ↔
      s.consumed ≤ haystackLength ∧ s.passed ≤ patternLength := by
  simp only [states, Finset.mem_map, Finset.mem_product, Finset.mem_range, Nat.lt_succ_iff]
  constructor
  · rintro ⟨place, hplace, rfl⟩
    exact hplace
  · intro h
    exact ⟨(s.consumed, s.passed), h, rfl⟩

@[simp] theorem card_states (haystackLength patternLength : Nat) :
    (states haystackLength patternLength).card = (haystackLength + 1) * (patternLength + 1) := by
  simp [states]

namespace Memo

/-- The grid has exactly one cell for each state of a search over the given lengths. -/
def Covers (memo : Memo) (haystackLength patternLength : Nat) : Prop :=
  memo.HasShape (haystackLength + 1) (patternLength + 1)

variable {haystackLength patternLength : Nat} {memo : Memo} {s s' : State}

theorem Covers.record (h : memo.Covers haystackLength patternLength) (s : State) (verdict : Bool) :
    (memo.record s verdict).Covers haystackLength patternLength :=
  Grid.HasShape.set h s.consumed s.passed (some verdict)

/-- A recorded verdict is read at its own state and changes no other. -/
theorem Covers.verdict?_record (h : memo.Covers haystackLength patternLength)
    (hs : s ∈ states haystackLength patternLength) (hs' : s' ∈ states haystackLength patternLength)
    (verdict : Bool) :
    (memo.record s verdict).verdict? s' = if s = s' then some verdict else memo.verdict? s' := by
  obtain ⟨hrow, hcolumn⟩ := mem_states.mp hs
  obtain ⟨-, hcolumn'⟩ := mem_states.mp hs'
  have hcell : (s.consumed = s'.consumed ∧ s.passed = s'.passed) ↔ s = s' := by
    cases s
    cases s'
    simp
  rw [verdict?, Memo.record, Grid.HasShape.get?_set h (Nat.lt_succ_iff.mpr hrow)
    (Nat.lt_succ_iff.mpr hcolumn) (Nat.lt_succ_iff.mpr hcolumn')]
  simp only [hcell]
  split <;> rfl

/-- The states that have a verdict. -/
def decidedStates (memo : Memo) (haystackLength patternLength : Nat) : Finset State :=
  (states haystackLength patternLength).filter fun s => (memo.verdict? s).isSome

theorem mem_decidedStates :
    s ∈ memo.decidedStates haystackLength patternLength ↔
      s ∈ states haystackLength patternLength ∧ (memo.verdict? s).isSome := by
  rw [decidedStates, Finset.mem_filter]

theorem Covers.decidedStates_record (h : memo.Covers haystackLength patternLength)
    (hs : s ∈ states haystackLength patternLength) (verdict : Bool) :
    (memo.record s verdict).decidedStates haystackLength patternLength =
      insert s (memo.decidedStates haystackLength patternLength) := by
  ext s'
  rw [Finset.mem_insert, mem_decidedStates, mem_decidedStates]
  by_cases hs' : s' ∈ states haystackLength patternLength
  · rw [h.verdict?_record hs hs']
    by_cases heq : s = s'
    · simp [heq, hs']
    · simp [heq, hs', Ne.symm heq]
  · have hne : s' ≠ s := fun heq => hs' (heq ▸ hs)
    simp [hs', hne]

@[simp] theorem verdict?_filled (stride count : Nat) (s : State) :
    verdict? (.filled stride count none) s = none := by
  rw [verdict?, Grid.get?_filled]
  split <;> rfl

end Memo

end StarMatch.Backtracker
