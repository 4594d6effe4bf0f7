/-!
# Flags

The flags of the program, how they are written, which of them take a value, and what a user is told
about them.
-/

namespace StarMatch.CommandLine

/-- The flags. -/
inductive Flag where
  | quiet
  | verbose
  | wildcard
  | repetition
  | engine
  | noPrefilter
  | tableSizeLimit
  deriving DecidableEq, Repr

namespace Flag

/-- The name behind two dashes. -/
def long : Flag → String
  | quiet => "quiet"
  | verbose => "verbose"
  | wildcard => "wildcard"
  | repetition => "repetition"
  | engine => "engine"
  | noPrefilter => "no-prefilter"
  | tableSizeLimit => "table-size-limit"

/-- The letter behind one dash. -/
def short? : Flag → Option Char
  | quiet => some 'q'
  | engine => some 'e'
  | _ => none

/-- Whether the flag takes a value. -/
def takesValue : Flag → Bool
  | quiet | verbose | noPrefilter => false
  | wildcard | repetition | engine | tableSizeLimit => true

/-- The name under which messages speak of the flag. -/
def title (f : Flag) : String :=
  match f.short? with
  | none => "--" ++ f.long
  | some c => "-" ++ String.singleton c ++ "/--" ++ f.long

/-- How the flag is written, with a name for its value. -/
def format : Flag → String
  | quiet => "-q, --quiet"
  | verbose => "--verbose"
  | wildcard => "--wildcard <char>"
  | repetition => "--repetition <char>"
  | engine => "-e, --engine <engine>"
  | noPrefilter => "--no-prefilter"
  | tableSizeLimit => "--table-size-limit <cells>"

/-- A description that fits on one line beside the format. -/
def brief : Flag → String
  | quiet => "Suppress some output."
  | verbose => "Add more output."
  | wildcard => "Set the symbol matching any one byte."
  | repetition => "Set the repetition symbol."
  | engine => "One of: auto, backtrack, table."
  | noPrefilter => "Disable the prefilter."
  | tableSizeLimit => "Limit the table size per search."

/-- A full description: paragraphs of lines that leave room for an indentation of eight columns in a
text of seventy-nine. -/
def details : Flag → List (List String)
  | quiet =>
    [["This is a generic flag that suppresses some (but not all) output. With",
      "'regex-cli match', nothing is printed and only the exit status reports",
      "the result. With 'regex-cli debug', only the summary table is printed."]]
  | verbose =>
    [["This is a generic flag that expands output beyond the \"normal\" amount.",
      "With 'regex-cli match', timings and the chosen strategy are printed",
      "as well."]]
  | wildcard =>
    [["Set the ASCII character that matches any single haystack byte. Once",
      "changed, '.' is an ordinary literal."],
     ["The default is '.'."]]
  | repetition =>
    [["Set the ASCII character that repeats the preceding literal or wildcard",
      "zero or more times. It must differ from the wildcard."],
     ["The default is '*'."]]
  | engine =>
    [["Choose the engine used to match. 'auto' picks the cheapest strategy",
      "for the pattern: a direct comparison for literal patterns, a position",
      "by position check for patterns without repetition, and the memoized",
      "backtracker otherwise. 'backtrack' and 'table' force the memoized",
      "backtracker or the dynamic programming table, respectively."],
     ["The default is 'auto'."]]
  | noPrefilter =>
    [["Disable the check that rejects haystacks missing a literal the pattern",
      "requires, or too short to match, before any engine runs."]]
  | tableSizeLimit =>
    [["Set the largest number of table cells a single search may use. A search",
      "needs (haystack length + 1) * (pattern length + 1) cells. Use 'none'",
      "for no limit."],
     ["The default is 'none'."]]

end Flag

end StarMatch.CommandLine
