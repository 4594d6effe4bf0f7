import StarMatch.Matcher.Prefilter
import StarMatch.Matcher.Strategy

/-!
# Matchers

A matcher is a compiled pattern over bytes: its pattern and settings, the prefilter if one is used,
and the strategy chosen for it. A haystack that the prefilter rejects is answered at once, so it
never runs into the limit on the size of a search.
-/

namespace StarMatch

/-- A compiled pattern over bytes. -/
structure Matcher where
  settings : MatcherSettings
  pattern : Pattern UInt8
  prefilter? : Option Prefilter
  strategy : Strategy

namespace Matcher

/-- Compiles a pattern under the given settings. -/
def ofPattern (settings : MatcherSettings) (pattern : Pattern UInt8) : Matcher where
  settings := settings
  pattern := pattern
  prefilter? := if settings.usesPrefilter then Prefilter.ofPattern? pattern else none
  strategy := Strategy.choose settings pattern

/-- What is logged when the matcher is compiled. -/
def buildLog (m : Matcher) : List LogEvent :=
  (if m.settings.usesPrefilter then [Prefilter.event m.prefilter?] else []) ++
    [.strategyChosen m.strategy.kind]

/-- The memory held, in bytes. -/
def memory (m : Matcher) : Nat :=
  m.strategy.memory + (m.prefilter?.map Prefilter.memory).getD 0

/-- Whether the prefilter, if one is used, lets the haystack through. -/
def passes (m : Matcher) (haystack : List UInt8) : Bool :=
  m.prefilter?.all (·.isPossible haystack)

/-- Whether the whole haystack matches, using the cache for scratch space. It is taken for granted here
that an engine has room for its table. -/
def search (m : Matcher) (cache : MatcherCache) (haystack : List UInt8) : Outcome MatcherCache :=
  if m.passes haystack then m.strategy.search cache haystack
  else ⟨.ok false, cache, [.prefilterRejected haystack.length]⟩

/-- Whether the whole haystack matches, using the cache for scratch space. A haystack that gets to an
engine stops the caller if there cannot be room for its table. -/
def searchInRoom (m : Matcher) (cache : MatcherCache) (haystack : List UInt8) :
    Except Panic (Outcome MatcherCache) :=
  if m.passes haystack then
    match m.strategy.roomPanic? haystack.length with
    | some panic => .error panic
    | none => .ok (m.search cache haystack)
  else .ok (m.search cache haystack)

/-- Whether the whole haystack matches, with scratch space of its own. -/
def isMatch (m : Matcher) (haystack : List UInt8) : Outcome MatcherCache :=
  m.search {} haystack

end Matcher

namespace MatcherBuilder

/-- Compiles a pattern. The reserved symbols have no part in it. -/
def ofPattern (b : MatcherBuilder) (pattern : Pattern UInt8) : Matcher :=
  .ofPattern b.settings pattern

/-- Reads and compiles a written pattern. -/
def ofBytes (b : MatcherBuilder) (text : List UInt8) : Except PatternError Matcher :=
  (Pattern.ofBytes b.reserved text).map b.ofPattern

end MatcherBuilder

end StarMatch
