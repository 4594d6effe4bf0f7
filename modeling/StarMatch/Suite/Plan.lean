import StarMatch.Suite.Collection
import StarMatch.Suite.Report
import StarMatch.Suite.Subject

/-!
# Plans

A plan says what a whole run of a suite consists of: what is loaded, which filters apply, what is
tested, and whether a summary is asked for.
-/

namespace StarMatch.Suite

/-- A whole run of a suite. -/
structure Plan where
  load : Load
  /-- The value of the variable that holds filters. -/
  environment? : Option (List UInt8) := none
  /-- Further filters. -/
  filters : List Filter := []
  /-- Whether all cases are run, whatever the filters say. -/
  everyCase : Bool := false
  subject : Subject := {}
  /-- The value of the variable that asks for a summary. -/
  verbose? : Option String := none

/-- How a run ends. -/
inductive Conclusion where
  | notLoaded (error : LoadError)
  | badFilters (error : FilterError)
  /-- What was printed, and the report on failures if there are any. -/
  | finished (printed : String) (report? : Option String)

namespace Plan

/-- The runner after all cases, given the filters in the variable. -/
def runner (p : Plan) (cases : List Case) (filters : List Filter) : Runner :=
  let start := p.filters.foldl Runner.addFilter { filters }
  if p.everyCase then start.testEach p.subject.compile cases
  else start.testAll p.subject.compile cases

/-- Carries out a plan. -/
def run (p : Plan) : Conclusion :=
  match Collection.apply {} p.load with
  | (_, .error e) => .notLoaded e
  | (c, .ok ()) =>
    match Filter.ofVariable p.environment? with
    | .error e => .badFilters e
    | .ok filters =>
      let records := (p.runner c.cases filters).records
      .finished (records.printed p.verbose?) records.report?

end Plan

end StarMatch.Suite
