import StarMatch.Matcher.Basic
import StarMatch.Text.Layout

/-!
# Matchers shown by their structure

How patterns over bytes, prefilters, settings and matchers are shown to a user who asks what became
of a pattern.
-/

namespace StarMatch

open Text (Layout)

/-- The structure of a token over bytes. -/
def Token.layout : Token UInt8 → Layout
  | .lit b => .variant "Literal" [.ofNat b.toNat]
  | .any => .atom "Any"
  | .star => .atom "Repeat"

/-- The structure of a list of tokens. -/
def Token.layoutList (tokens : List (Token UInt8)) : Layout :=
  .list (tokens.map Token.layout)

/-- The structure of a pattern over bytes. -/
def Pattern.layout (p : Pattern UInt8) : Layout :=
  .record "Pattern" [("tokens", Token.layoutList p.tokens)]

/-- The structure of a list of bytes. -/
def bytesLayout (bytes : List UInt8) : Layout :=
  .list (bytes.map fun b => .ofNat b.toNat)

/-- The structure of a prefilter. -/
def Prefilter.layout (f : Prefilter) : Layout :=
  .record "Prefilter"
    [("needles", bytesLayout f.needles), ("min_len", .ofNat f.minLength),
      ("exact_len", .ofOption .ofNat f.exactLength?)]

/-- The structure of a limit that may be set, and may be set to none. -/
def limitLayout (limit? : Option (Option Nat)) : Layout :=
  .ofOption (.ofOption .ofNat) limit?

/-- The structure of the settings of an engine. -/
def SearchSettings.layout (s : SearchSettings) : Layout :=
  .record "Config" [("table_size_limit", limitLayout s.tableSizeLimit?)]

/-- The structure of an engine choice. -/
def EngineChoice.layout : EngineChoice → Layout
  | .auto => .atom "Auto"
  | .backtrack => .atom "Backtrack"
  | .table => .atom "Table"

/-- The structure of a flag. -/
def flagLayout : Bool → Layout
  | true => .atom "true"
  | false => .atom "false"

/-- The structure of the settings of a matcher. -/
def MatcherSettings.layout (s : MatcherSettings) : Layout :=
  .record "Config"
    [("engine", .ofOption EngineChoice.layout s.engine?),
      ("prefilter", .ofOption flagLayout s.prefilter?),
      ("table_size_limit", limitLayout s.tableSizeLimit?)]

/-- The structure of an engine with its name, settings and pattern. -/
def engineLayout (name : String) (settings : SearchSettings) (p : Pattern UInt8) : Layout :=
  .record name [("config", settings.layout), ("pattern", p.layout)]

/-- The structure of a strategy. -/
def Strategy.layout : Strategy → Layout
  | .literal bytes => .record "Literal" [("bytes", bytesLayout bytes)]
  | .fixed p => .record "Fixed" [("pattern", p.layout)]
  | .backtrack m => .variant "Backtrack" [engineLayout "Backtracker" m.settings m.pattern]
  | .table m => .variant "Table" [engineLayout "TableMatcher" m.settings m.pattern]

/-- The structure of a matcher. -/
def Matcher.layout (m : Matcher) : Layout :=
  .record "Regex"
    [("config", m.settings.layout), ("pattern", m.pattern.layout),
      ("pre", .ofOption Prefilter.layout m.prefilter?), ("strat", m.strategy.layout)]

end StarMatch
