import StarMatch.Matcher.Settings
import StarMatch.Search.Backtrack
import StarMatch.Search.Table

/-!
# Strategies

A pattern of literals is compared with the haystack directly, a pattern without repetition position
by position, and any other pattern needs one of the two engines. An engine can also be asked for by
name, for every pattern.
-/

namespace StarMatch

/-- The scratch space of both engines. A search writes only into that of the engine it runs. -/
structure MatcherCache where
  backtrack : Backtracker.Cache := {}
  table : TableMatcher.Cache := {}

/-- Whether the cache holds memory. -/
def MatcherCache.isUsed (c : MatcherCache) : Bool :=
  c.backtrack.isUsed || c.table.isUsed

/-- A copy of the scratch space of both engines. -/
def MatcherCache.copy (c : MatcherCache) : MatcherCache :=
  ⟨c.backtrack.copy, c.table.copy⟩

/-- A way to match one pattern over bytes. -/
inductive Strategy where
  /-- The haystack must be these bytes. -/
  | literal (bytes : List UInt8)
  /-- Each token takes the byte at its own offset. -/
  | fixed (pattern : Pattern UInt8)
  | backtrack (matcher : Backtracker UInt8)
  | table (matcher : TableMatcher UInt8)

namespace Strategy

/-- The strategy for a pattern under the given settings. -/
def choose (settings : MatcherSettings) (p : Pattern UInt8) : Strategy :=
  let limited : SearchSettings := { tableSizeLimit? := some settings.tableSizeLimit }
  match settings.engine with
  | .backtrack => backtrack ⟨limited, p⟩
  | .table => table ⟨limited, p⟩
  | .auto =>
    if p.isLiteral then literal (p.tokens.filterMap Token.literal?)
    else if !p.hasRepetition then fixed p
    else backtrack ⟨limited, p⟩

/-- The kind of a strategy. -/
def kind : Strategy → StrategyKind
  | literal _ => .literal
  | fixed _ => .fixed
  | backtrack _ => .backtrack
  | table _ => .table

/-- The memory held, in bytes: one for each literal byte, or two for each token. -/
def memory : Strategy → Nat
  | literal bytes => bytes.length
  | fixed pattern => 2 * pattern.length
  | backtrack matcher => 2 * matcher.pattern.length
  | table matcher => 2 * matcher.pattern.length

/-- Whether each token accepts the byte at its own offset, and no byte is left over. -/
def acceptsEach (tokens : List (Token UInt8)) (haystack : List UInt8) : Bool :=
  tokens.length == haystack.length && (tokens.zip haystack).all fun (t, b) => t.accepts b

/-- Whether the whole haystack matches, using the cache for scratch space. It is taken for granted here
that an engine has room for its table. -/
def search (s : Strategy) (cache : MatcherCache) (haystack : List UInt8) : Outcome MatcherCache :=
  match s with
  | literal bytes => ⟨.ok (haystack == bytes), cache, []⟩
  | fixed pattern => ⟨.ok (acceptsEach pattern.tokens haystack), cache, []⟩
  | backtrack matcher =>
    (matcher.search cache.backtrack (.ofList haystack)).mapCache ({ cache with backtrack := · })
  | table matcher =>
    (matcher.search cache.table (.ofList haystack)).mapCache ({ cache with table := · })

/-- The stop of an engine that there is no room for. The other strategies need no table. -/
def roomPanic? (s : Strategy) (haystackLength : Nat) : Option Panic :=
  match s with
  | literal _ | fixed _ => none
  | backtrack matcher =>
    StarMatch.roomPanic? haystackLength matcher.pattern.length matcher.settings.tableSizeLimit
  | table matcher =>
    StarMatch.roomPanic? haystackLength matcher.pattern.length matcher.settings.tableSizeLimit

end Strategy

end StarMatch
