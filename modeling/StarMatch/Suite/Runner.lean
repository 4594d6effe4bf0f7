import StarMatch.Panic
import StarMatch.Suite.Case
import StarMatch.Suite.Filter

/-!
# Running test cases

A runner hands each case that its filters allow to a compile function and compares what comes back
with what the case expects. It keeps three lists of records: passed, skipped and failed. A panic
while compiling or matching fails the case at hand and no other.
-/

namespace StarMatch.Suite

/-- What a match function says about a case. -/
inductive Finding where
  /-- The pattern matches the input, or does not. -/
  | verdict (isMatch : Bool)
  /-- The case is to be skipped. -/
  | skipped
  /-- Nothing was found out. -/
  | absent
  deriving DecidableEq, Repr

/-- A finding, under a name that tells apart several results of one case. -/
structure Result where
  name : String := ""
  finding : Finding
  deriving DecidableEq, Repr

/-- What compiling the pattern of a case leads to. -/
inductive Compilation where
  | panicked (panic : Panic)
  | rejected (message : String)
  /-- The case is to be skipped. -/
  | skipped
  /-- A function that matches the compiled pattern against the input of a case. -/
  | compiled (matchInput : Case → Except Panic (List Result))

/-- Why a case fails. -/
inductive FailureKind where
  /-- The verdict is not the expected one. -/
  | wrongVerdict
  /-- The pattern should have been rejected. -/
  | accepted
  /-- The pattern should have been accepted. -/
  | rejected (message : String)
  | panickedCompiling (message : String)
  | panickedMatching (message : String)
  deriving DecidableEq, Repr

/-- A case with a result that passed or was skipped. -/
structure Record where
  case : Case
  result : Result
  deriving DecidableEq, Repr

/-- A case with a result that failed, and the reason. -/
structure Failure where
  case : Case
  result : Result
  kind : FailureKind
  deriving DecidableEq, Repr

/-- Everything recorded, in order. -/
structure Records where
  passed : List Record := []
  skipped : List Record := []
  failed : List Failure := []
  deriving DecidableEq, Repr

namespace Records

/-- The records with one more pass. -/
def pass (r : Records) (c : Case) (result : Result) : Records :=
  { r with passed := r.passed ++ [⟨c, result⟩] }

/-- The records with one more skip. -/
def skip (r : Records) (c : Case) (result : Result) : Records :=
  { r with skipped := r.skipped ++ [⟨c, result⟩] }

/-- The records with one more failure. -/
def fail (r : Records) (c : Case) (result : Result) (kind : FailureKind) : Records :=
  { r with failed := r.failed ++ [⟨c, result, kind⟩] }

/-- Records one result of a case. -/
def note (r : Records) (c : Case) (result : Result) : Records :=
  match result.finding with
  | .absent => r
  | .skipped => r.skip c result
  | .verdict isMatch =>
    if isMatch = c.expectsMatch then r.pass c result else r.fail c result .wrongVerdict

end Records

/-- The text in which a panic is reported. -/
def showPanic : Panic → String
  | .text message => message
  | .unshowable => "UNABLE TO SHOW RESULT OF PANIC."

/-- The filters in force and everything recorded so far. -/
structure Runner where
  filters : List Filter := []
  records : Records := {}

namespace Runner

/-- The runner with one more filter. -/
def addFilter (r : Runner) (f : Filter) : Runner :=
  { r with filters := r.filters ++ [f] }

/-- Runs one case, whatever the filters say. -/
def test (compile : Case → Compilation) (r : Runner) (c : Case) : Runner :=
  { r with records :=
    match compile c with
    | .panicked p => r.records.fail c ⟨"", .skipped⟩ (.panickedCompiling (showPanic p))
    | .rejected message =>
      if c.compiles then r.records.fail c ⟨"", .skipped⟩ (.rejected message)
      else r.records.pass c ⟨"", .absent⟩
    | .skipped =>
      if c.compiles then r.records.note c ⟨"", .skipped⟩
      else r.records.fail c ⟨"", .skipped⟩ .accepted
    | .compiled matchInput =>
      if c.compiles then
        match matchInput c with
        | .error p => r.records.fail c ⟨"", .skipped⟩ (.panickedMatching (showPanic p))
        | .ok results => results.foldl (·.note c ·) r.records
      else r.records.fail c ⟨"", .skipped⟩ .accepted }

/-- Runs one case if the filters allow it, and skips it otherwise. -/
def testAllowed (compile : Case → Compilation) (r : Runner) (c : Case) : Runner :=
  if Filter.allow r.filters c.fullName.toList then r.test compile c
  else { r with records := r.records.skip c ⟨"", .absent⟩ }

/-- Runs the cases that the filters allow. -/
def testAll (compile : Case → Compilation) (r : Runner) (cases : List Case) : Runner :=
  cases.foldl (testAllowed compile) r

/-- Runs all cases, whatever the filters say. -/
def testEach (compile : Case → Compilation) (r : Runner) (cases : List Case) : Runner :=
  cases.foldl (test compile) r

end Runner

end StarMatch.Suite
