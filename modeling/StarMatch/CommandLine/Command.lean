import StarMatch.CommandLine.Flag

/-!
# Commands and their help

The commands of the program, the flags that each of them knows, and the texts that explain them. A
short explanation has one line for each flag, a long one the full descriptions.
-/

namespace StarMatch.CommandLine

/-- The commands that take flags and positional arguments. -/
inductive Command where
  /-- Matches haystacks against a pattern. -/
  | search
  /-- Shows a pattern. -/
  | showPattern
  /-- Shows a compiled pattern. -/
  | showMatcher
  deriving DecidableEq, Repr

/-- The explanation of the whole program. -/
def programUsage : String :=
  "A tool for matching whole inputs against wildcard patterns on the command\n" ++
    "line.\n\n" ++
    "USAGE:\n" ++
    "    regex-cli <command> ...\n\n" ++
    "COMMANDS:\n" ++
    "    debug    Print the debug representation of patterns and regexes.\n" ++
    "    match    Report whether a pattern matches each given haystack."

/-- The explanation of the commands that show things. -/
def debugUsage : String :=
  "Prints the debug representation of patterns and regexes.\n\n" ++
    "USAGE:\n" ++
    "    regex-cli debug <command> ...\n\n" ++
    "COMMANDS:\n" ++
    "    pattern    Print the debug representation of a parsed pattern.\n" ++
    "    regex      Print the debug representation of a meta regex."

namespace Flag

/-- A line with the format of the flag, filled up to the given width, and its brief description. -/
def briefLine (width : Nat) (f : Flag) : String :=
  let padding := String.ofList (List.replicate (width - f.format.length + 2) ' ')
  "    " ++ f.format ++ padding ++ f.brief

/-- The format of the flag, and its full description below. -/
def paragraph (f : Flag) : String :=
  let lines (ls : List String) : String := "\n".intercalate (ls.map fun l => "        " ++ l)
  "    " ++ f.format ++ "\n" ++ "\n\n".intercalate (f.details.map lines)

end Flag

namespace Command

/-- The flags that a command knows, in the order in which they are explained. -/
def flags : Command → List Flag
  | .search | showMatcher =>
    [.noPrefilter, .repetition, .tableSizeLimit, .verbose, .wildcard, .engine, .quiet]
  | showPattern => [.repetition, .verbose, .wildcard, .quiet]

/-- What a command does. -/
def purpose : Command → String
  | .search =>
    "Reports whether a pattern matches each of the given haystacks in full.\n\n" ++
      "For each haystack, 'yes' or 'no' is printed along with the haystack. The exit\n" ++
      "status is 0 when every haystack matches, 1 when at least one does not and 2\n" ++
      "when an error occurs."
  | showPattern =>
    "Prints the debug representation of a parsed pattern, along with some of its\n" ++
      "properties."
  | showMatcher =>
    "Prints the debug representation of a meta regex, along with the strategy it\n" ++
      "chose for its pattern."

/-- How a command is called. -/
def synopsis : Command → String
  | .search => "regex-cli match [options] <pattern> <haystack>..."
  | showPattern => "regex-cli debug pattern <pattern>"
  | showMatcher => "regex-cli debug regex <pattern>"

/-- The explanation of the flags of a command. -/
def options (c : Command) (long : Bool) : String :=
  if long then "\n\n".intercalate (c.flags.map Flag.paragraph)
  else
    let width := (c.flags.map fun f => f.format.length).foldl max 0
    "\n".intercalate (c.flags.map (Flag.briefLine width))

/-- The explanation of a command. -/
def usage (c : Command) (long : Bool) : String :=
  c.purpose ++ "\n\nUSAGE:\n    " ++ c.synopsis ++
    "\n\nTIP:\n    use -h for short docs and --help for long docs\n\nOPTIONS:\n" ++ c.options long

end Command

end StarMatch.CommandLine
