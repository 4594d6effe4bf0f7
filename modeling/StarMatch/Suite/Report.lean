import StarMatch.Suite.Runner
import StarMatch.Text.Escape

/-!
# Reports

When some cases have failed, the report lists every failure with its pattern and input in escaped
form. The summary lists the names of all records, and is printed where it is asked for.
-/

namespace StarMatch.Suite

/-- The name shown for a result of a case. -/
def shownName (c : Case) (result : Result) : String :=
  if result.name.isEmpty then c.fullName else c.fullName ++ " (" ++ result.name ++ ")"

/-- The sentence that explains a failure of a case. -/
def FailureKind.explain (c : Case) : FailureKind → String
  | wrongVerdict =>
    if c.expectsMatch then "expected match, but none found"
    else "expected no match, but found a match"
  | accepted => "expected pattern to NOT compile, but it did"
  | rejected message => "expected pattern to compile, failed: " ++ message
  | panickedCompiling message => "got unexpected panic while compiling:\n" ++ message
  | panickedMatching message => "got unexpected panic while matching:\n" ++ message

/-- The paragraph about a failure. -/
def Failure.paragraph (f : Failure) : List Char :=
  (shownName f.case f.result).toList ++ ": ".toList ++ (f.kind.explain f.case).toList ++
    "\npattern:     ".toList ++ Text.escape f.case.pattern ++
    "\ninput:       ".toList ++ Text.escape f.case.input

/-- The line that sets off a report. -/
def rule : List Char :=
  List.replicate 79 '~'

/-- The advice at the end of a report. -/
def advice : String :=
  "Set the REGEX_TEST environment variable to filter tests, \n" ++
    "e.g., REGEX_TEST=foo,-foo2 runs every test whose name contains \n" ++
    "foo but not foo2\n\n"

/-- Texts one after another with a separator between them. -/
def joined (separator : List Char) (texts : List (List Char)) : List Char :=
  (texts.intersperse separator).flatten

namespace Records

/-- The report on failures, if there are any. -/
def report? (r : Records) : Option String :=
  if r.failed.isEmpty then none
  else some <| String.ofList <|
    "found ".toList ++ (toString r.failed.length).toList ++ " failures:\n".toList ++ rule ++ ['\n'] ++
      Text.trim (joined ['\n', '\n'] (r.failed.map Failure.paragraph)) ++ ['\n'] ++ rule ++
      "\n\n".toList ++ advice.toList

/-- The names of all records, and how many there are of each kind. -/
def summary (r : Records) : String :=
  let line (label : String) (name : String) : String := label ++ ": " ++ name ++ "\n"
  String.ofList rule ++ "\n" ++
    String.join (r.skipped.map fun x => line "skip" (shownName x.case x.result)) ++
    String.join (r.passed.map fun x => line "pass" (shownName x.case x.result)) ++
    String.join (r.failed.map fun x => line "FAIL" (shownName x.case x.result)) ++
    "\npassed: " ++ toString r.passed.length ++ ", skipped: " ++ toString r.skipped.length ++
    ", failed: " ++ toString r.failed.length ++ "\n" ++ String.ofList rule ++ "\n"

/-- What is printed when the records are checked: the summary, if the variable that asks for it is
set to one. -/
def printed (r : Records) (verbose? : Option String) : String :=
  if verbose? = some "1" then r.summary else ""

end Records

end StarMatch.Suite
