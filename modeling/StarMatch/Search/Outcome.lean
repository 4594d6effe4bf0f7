import StarMatch.Search.Limit
import StarMatch.Log

/-!
# The outcome of a search

A search that works in a cache returns a verdict or its refusal, the cache as it left it, and what
it logged.
-/

namespace StarMatch

universe u v

/-- What a search in a cache of type `κ` returns. -/
structure Outcome (κ : Type v) where
  verdict : Except TableTooBig Bool
  cache : κ
  log : List LogEvent

namespace Outcome

/-- The same outcome with the cache held in a larger one. -/
def mapCache {κ : Type v} {κ' : Type v} (f : κ → κ') (o : Outcome κ) : Outcome κ' :=
  ⟨o.verdict, f o.cache, o.log⟩

/-- The verdict for a caller who leaves a refusal unhandled. -/
def unwrapped {κ : Type v} (o : Outcome κ) : Except Panic Bool :=
  o.verdict.mapError TableTooBig.panic

end Outcome

/-- Searches haystacks one after another, each with the cache that the one before left behind. -/
def searchEach {κ : Type v} {η : Type u} (search : κ → η → Outcome κ) : κ → List η → List (Outcome κ)
  | _, [] => []
  | cache, haystack :: haystacks =>
    let outcome := search cache haystack
    outcome :: searchEach search outcome.cache haystacks

end StarMatch
