import StarMatch.Search.Haystack
import StarMatch.Search.Outcome

/-!
# Room for a table

A search that is admitted asks for the memory of its whole table at once, and no more than `roomMax`
cells are ever given out at once. A limit above that, or none, lets larger searches pass; these stop
their caller before a symbol is looked at.
-/

namespace StarMatch

universe u v

/-- The largest number of cells, of one byte each, that memory is given out for at once. -/
def roomMax : Nat :=
  wordMax / 2

/-- The stop of a search that is admitted to a table for which there cannot be room. -/
def roomPanic? (haystackLength patternLength : Nat) (limit : Option Nat) : Option Panic :=
  match checkedCellCount haystackLength patternLength limit with
  | .error _ => none
  | .ok cells => if roomMax < cells then some (.text "capacity overflow") else none

/-- The outcome of a search under the given limit, unless there cannot be room for its table. -/
def searchInRoom {σ : Type u} {κ : Type v} (search : Haystack σ → Outcome κ) (patternLength : Nat)
    (limit : Option Nat) (haystack : Haystack σ) : Except Panic (Outcome κ) :=
  match roomPanic? haystack.length patternLength limit with
  | some panic => .error panic
  | none => .ok (search haystack)

end StarMatch
