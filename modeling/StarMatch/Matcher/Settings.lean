import StarMatch.Pattern.Reading

/-!
# Settings of a matcher

Three knobs say how a pattern over bytes is compiled: the engine, the prefilter, and the limit on
the size of a search. Each may be left alone, and when settings are layered the later layer wins
wherever it sets a knob. A builder collects settings and reserved symbols and compiles any number of
patterns.
-/

namespace StarMatch

/-- Which engine is used for the patterns that need one. -/
inductive EngineChoice where
  /-- The cheapest way for each pattern. -/
  | auto
  | backtrack
  | table
  deriving DecidableEq, Repr, Inhabited

namespace EngineChoice

/-- The name by which a user picks the engine. -/
def name : EngineChoice → String
  | auto => "auto"
  | backtrack => "backtrack"
  | table => "table"

/-- The engine of the given name. -/
def ofName? : String → Option EngineChoice
  | "auto" => some auto
  | "backtrack" => some backtrack
  | "table" => some table
  | _ => none

theorem ofName?_name (e : EngineChoice) : ofName? e.name = some e := by
  cases e <;> rfl

end EngineChoice

/-- The settings of a matcher. -/
structure MatcherSettings where
  engine? : Option EngineChoice := none
  prefilter? : Option Bool := none
  tableSizeLimit? : Option (Option Nat) := none
  deriving DecidableEq, Repr, Inhabited

namespace MatcherSettings

/-- The settings in which whatever `top` sets replaces what `base` sets. -/
def overlay (base top : MatcherSettings) : MatcherSettings where
  engine? := top.engine?.or base.engine?
  prefilter? := top.prefilter?.or base.prefilter?
  tableSizeLimit? := top.tableSizeLimit?.or base.tableSizeLimit?

/-- The engine in force, the automatic choice by default. -/
def engine (s : MatcherSettings) : EngineChoice :=
  s.engine?.getD .auto

/-- Whether haystacks are checked before a search, which they are by default. -/
def usesPrefilter (s : MatcherSettings) : Bool :=
  s.prefilter?.getD true

/-- The limit in force, none by default. -/
def tableSizeLimit (s : MatcherSettings) : Option Nat :=
  s.tableSizeLimit?.join

end MatcherSettings

/-- The settings and reserved symbols collected so far. -/
structure MatcherBuilder where
  settings : MatcherSettings := {}
  reserved : ReservedSymbols := {}
  deriving DecidableEq, Repr, Inhabited

namespace MatcherBuilder

/-- Layers settings on top of the present ones. -/
def configure (b : MatcherBuilder) (settings : MatcherSettings) : MatcherBuilder :=
  { b with settings := b.settings.overlay settings }

/-- Layers a choice of reserved symbols on top of the present one. -/
def reserve (b : MatcherBuilder) (reserved : ReservedSymbols) : MatcherBuilder :=
  { b with reserved := b.reserved.overlay reserved }

end MatcherBuilder

end StarMatch
