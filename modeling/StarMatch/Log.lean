/-!
# The log

What the library reports about its own work: which checks and strategies it chose when a pattern was
compiled, and how much each search did.
-/

namespace StarMatch

/-- The ways in which a compiled pattern is matched. -/
inductive StrategyKind where
  | literal
  | fixed
  | backtrack
  | table
  deriving DecidableEq, Repr

/-- The name shown to a user. -/
def StrategyKind.name : StrategyKind → String
  | literal => "literal"
  | fixed => "fixed"
  | backtrack => "backtrack"
  | table => "table"

/-- How important a report is. -/
inductive LogLevel where
  | debug
  | trace
  deriving DecidableEq, Repr

/-- The name shown to a user. -/
def LogLevel.name : LogLevel → String
  | debug => "DEBUG"
  | trace => "TRACE"

/-- One report. -/
inductive LogEvent where
  /-- A prefilter was built. -/
  | prefilterBuilt (needles minLength : Nat)
  /-- There is nothing that a prefilter could check. -/
  | prefilterOmitted
  /-- A strategy was chosen. -/
  | strategyChosen (kind : StrategyKind)
  /-- The prefilter rejected a haystack of the given length. -/
  | prefilterRejected (length : Nat)
  /-- The backtracker gave a verdict to some of the states of its table, counted in a signed word of
  32 bits. -/
  | backtrackEvaluated (evaluated : Int32) (cells : Nat)
  /-- The table engine filled its table. -/
  | tableFilled (cells : Nat)
  deriving DecidableEq, Repr

namespace LogEvent

/-- How important the report is. -/
def level : LogEvent → LogLevel
  | prefilterBuilt .. | prefilterOmitted | strategyChosen _ => .debug
  | prefilterRejected _ | backtrackEvaluated .. | tableFilled _ => .trace

/-- The text of the report. -/
def message : LogEvent → String
  | prefilterBuilt needles minLength =>
    "prefilter built: " ++ toString needles ++ " required literal bytes, min length " ++
      toString minLength
  | prefilterOmitted => "prefilter building failed: pattern can match anything"
  | strategyChosen kind => "meta strategy chosen: " ++ kind.name
  | prefilterRejected length => "prefilter rejected " ++ toString length ++ " byte haystack"
  | backtrackEvaluated evaluated cells =>
    "backtrack search evaluated " ++ toString evaluated ++ " of " ++ toString cells ++ " states"
  | tableFilled cells => "table search filled " ++ toString cells ++ " cells"

/-- The level and the text, as one line. -/
def line (e : LogEvent) : String :=
  e.level.name ++ " " ++ e.message

end LogEvent

end StarMatch
