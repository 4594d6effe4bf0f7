import StarMatch.Matcher.Basic

/-!
# Sessions

A session works on one builder, on matchers known by name, and on caches known by name, which any
matcher may share. Its actions may come in any order. A failed build leaves the session as it was.
-/

namespace StarMatch

/-- What a pattern over bytes is built from. -/
inductive PatternSource where
  /-- A written pattern. -/
  | text (text : List UInt8)
  | tokens (tokens : List (Token UInt8))
  | literal (bytes : List UInt8)
  | empty
  deriving DecidableEq, Repr

/-- Builds a matcher, reading a written pattern with the builder's reserved symbols. -/
def MatcherBuilder.ofSource (b : MatcherBuilder) : PatternSource → Except PatternError Matcher
  | .text text => b.ofBytes text
  | .tokens tokens => (Pattern.ofTokens tokens).map b.ofPattern
  | .literal bytes => .ok (b.ofPattern (.literal bytes))
  | .empty => .ok (b.ofPattern .empty)

/-- The builder, the matchers and the caches at hand, the latest of a name in front. -/
structure Session where
  builder : MatcherBuilder := {}
  matchers : List (String × Matcher) := []
  caches : List (String × MatcherCache) := []

namespace Session

/-- What can be done in a session. -/
inductive Action where
  /-- Layers settings on the builder's. -/
  | configure (settings : MatcherSettings)
  /-- Layers reserved symbols on the builder's. -/
  | reserve (reserved : ReservedSymbols)
  /-- Starts over with a new builder. -/
  | reset
  /-- Puts a new cache under a name. -/
  | newCache (name : String)
  /-- Puts a copy of a cache under a name. -/
  | copyCache (source target : String)
  /-- Compiles a pattern with the builder and puts the matcher under a name. -/
  | build (name : String) (source : PatternSource)
  /-- Compiles a written pattern with a new builder. -/
  | compile (name : String) (text : List UInt8)
  /-- Puts a copy of a matcher under a name. -/
  | copyMatcher (source target : String)
  /-- Searches with a named cache, which is new if nothing has that name. -/
  | search (matcher cache : String) (haystack : List UInt8)
  /-- Searches with a cache that is not kept. -/
  | isMatch (matcher : String) (haystack : List UInt8)
  deriving Repr

/-- What an action answers. -/
inductive Reply where
  | done
  | matcher (m : Matcher)
  | rejected (e : PatternError)
  | verdict (verdict : Except TableTooBig Bool) (cacheUsed : Bool)
  | answer (verdict : Except Panic Bool)
  /-- No matcher has that name. -/
  | unknownMatcher (name : String)

/-- The matcher of a name. -/
def matcher? (s : Session) (name : String) : Option Matcher :=
  s.matchers.lookup name

/-- The cache of a name, a new one if there is none. -/
def cache (s : Session) (name : String) : MatcherCache :=
  (s.caches.lookup name).getD {}

/-- The session with a matcher put under a name. -/
def putMatcher (s : Session) (name : String) (m : Matcher) : Session :=
  { s with matchers := (name, m) :: s.matchers }

/-- The session with a cache put under a name. -/
def putCache (s : Session) (name : String) (c : MatcherCache) : Session :=
  { s with caches := (name, c) :: s.caches }

/-- Puts a freshly built matcher under a name, or leaves the session as it was. -/
def install (s : Session) (name : String) :
    Except PatternError Matcher → Session × Reply × List LogEvent
  | .error e => (s, .rejected e, [])
  | .ok m => (s.putMatcher name m, .matcher m, m.buildLog)

/-- One action: the session after it, the reply, and what was logged. -/
def act (s : Session) : Action → Session × Reply × List LogEvent
  | .configure settings => ({ s with builder := s.builder.configure settings }, .done, [])
  | .reserve reserved => ({ s with builder := s.builder.reserve reserved }, .done, [])
  | .reset => ({ s with builder := {} }, .done, [])
  | .newCache name => (s.putCache name {}, .done, [])
  | .copyCache source target => (s.putCache target (s.cache source).copy, .done, [])
  | .build name source => s.install name (s.builder.ofSource source)
  | .compile name text => s.install name (MatcherBuilder.ofBytes {} text)
  | .copyMatcher source target =>
    match s.matcher? source with
    | none => (s, .unknownMatcher source, [])
    | some m => (s.putMatcher target m, .matcher m, [])
  | .search matcher cache haystack =>
    match s.matcher? matcher with
    | none => (s, .unknownMatcher matcher, [])
    | some m =>
      let outcome := m.search (s.cache cache) haystack
      (s.putCache cache outcome.cache, .verdict outcome.verdict outcome.cache.isUsed, outcome.log)
  | .isMatch matcher haystack =>
    match s.matcher? matcher with
    | none => (s, .unknownMatcher matcher, [])
    | some m =>
      let outcome := m.isMatch haystack
      (s, .answer outcome.unwrapped, outcome.log)

/-- The replies to a list of actions, each with what was logged for it. -/
def run (s : Session) : List Action → List (Reply × List LogEvent)
  | [] => []
  | a :: actions =>
    let (next, reply, log) := s.act a
    (reply, log) :: run next actions

end Session

end StarMatch
