import StarMatch.Matcher.Basic
import StarMatch.Proofs.Search.Scratch

/-!
# What a matcher leaves in its cache

Only a search that gets past the prefilter and past the limit of an engine writes into the cache. It
leaves the cache holding memory, and every other search leaves it exactly as it was.
-/

namespace StarMatch

/-- Each engine's part of the cache holds memory exactly if it has cells. -/
structure MatcherCache.Backed (c : MatcherCache) : Prop where
  backtrack : c.backtrack.Backed
  table : c.table.Backed

namespace MatcherCache

variable {c : MatcherCache}

theorem backed_new : ({} : MatcherCache).Backed :=
  ⟨Iff.rfl, Iff.rfl⟩

theorem backed_copy (c : MatcherCache) : c.copy.Backed :=
  ⟨Iff.rfl, Iff.rfl⟩

end MatcherCache

/-- The search of a haystack of the given length gets past the limit of an engine. -/
def Strategy.Enters (s : Strategy) (haystackLength : Nat) : Prop :=
  match s with
  | literal _ => False
  | fixed _ => False
  | backtrack b => ∃ cells,
    checkedCellCount haystackLength b.pattern.length b.settings.tableSizeLimit = .ok cells
  | table m => ∃ cells,
    checkedCellCount haystackLength m.pattern.length m.settings.tableSizeLimit = .ok cells

namespace Strategy

variable {s : Strategy} {cache : MatcherCache} {haystack : List UInt8}

theorem verdict_search_eq_new (s : Strategy) (cache : MatcherCache) (haystack : List UInt8) :
    (s.search cache haystack).verdict = (s.search {} haystack).verdict := by
  cases s with
  | literal bytes => rfl
  | fixed pattern => rfl
  | backtrack b => exact Backtracker.verdict_search_eq_new b (.ofList haystack) cache.backtrack
  | table m => exact TableMatcher.verdict_search_eq_new m (.ofList haystack) cache.table

theorem backed_search (hbacked : cache.Backed) : (s.search cache haystack).cache.Backed := by
  cases s with
  | literal bytes => exact hbacked
  | fixed pattern => exact hbacked
  | backtrack b => exact ⟨Backtracker.backed_search b _ hbacked.backtrack, hbacked.table⟩
  | table m => exact ⟨hbacked.backtrack, TableMatcher.backed_search m _ hbacked.table⟩

end Strategy

namespace Matcher

variable {m : Matcher} {cache : MatcherCache} {haystack : List UInt8}

/-- The search gets past the prefilter and past the limit of an engine. -/
def Enters (m : Matcher) (haystack : List UInt8) : Prop :=
  m.passes haystack = true ∧ m.strategy.Enters haystack.length

/-- The verdict of a search is that of the same search with a new cache. -/
theorem verdict_search_eq_new (m : Matcher) (cache : MatcherCache) (haystack : List UInt8) :
    (m.search cache haystack).verdict = (m.search {} haystack).verdict := by
  rw [search, search]
  split
  · exact m.strategy.verdict_search_eq_new cache haystack
  · rfl

theorem backed_search (hbacked : cache.Backed) : (m.search cache haystack).cache.Backed := by
  rw [search]
  split
  · exact Strategy.backed_search hbacked
  · exact hbacked

end Matcher

end StarMatch
