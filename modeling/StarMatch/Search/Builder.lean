import StarMatch.Pattern.Reading

/-!
# Settings of the engines

An engine has one setting, the limit on the size of its table. Not setting it, setting it to no
limit, and setting it to a number are three different things: when settings are layered, whatever
the later layer sets replaces the earlier, and no limit counts as set. A builder collects settings
and reserved symbols, and builds any number of engines from them.
-/

namespace StarMatch

/-- The settings of an engine. -/
structure SearchSettings where
  tableSizeLimit? : Option (Option Nat) := none
  deriving DecidableEq, Repr, Inhabited

namespace SearchSettings

/-- The settings in which whatever `top` sets replaces what `base` sets. -/
def overlay (base top : SearchSettings) : SearchSettings where
  tableSizeLimit? := top.tableSizeLimit?.or base.tableSizeLimit?

/-- The limit in force, none by default. -/
def tableSizeLimit (s : SearchSettings) : Option Nat :=
  s.tableSizeLimit?.join

end SearchSettings

/-- The settings and reserved symbols collected so far. -/
structure SearchBuilder where
  settings : SearchSettings := {}
  reserved : ReservedSymbols := {}
  deriving DecidableEq, Repr, Inhabited

namespace SearchBuilder

/-- Layers settings on top of the present ones. -/
def configure (b : SearchBuilder) (settings : SearchSettings) : SearchBuilder :=
  { b with settings := b.settings.overlay settings }

/-- Layers a choice of reserved symbols on top of the present one. -/
def reserve (b : SearchBuilder) (reserved : ReservedSymbols) : SearchBuilder :=
  { b with reserved := b.reserved.overlay reserved }

end SearchBuilder

end StarMatch
