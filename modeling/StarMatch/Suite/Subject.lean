import StarMatch.Matcher.Basic
import StarMatch.Suite.Runner

/-!
# Matchers under test

A suite is run against matchers with various settings, all compiled from the pattern of the case at
hand and all asked about its input. Faults can be planted, by the full name of a case, to see how a
runner deals with a subject that panics, rejects, skips, or answers wrongly.
-/

namespace StarMatch.Suite

/-- Settings to be tested, and the name of their results. -/
structure Contender where
  label : String := ""
  settings : MatcherSettings := {}
  deriving DecidableEq, Repr

/-- What is planted in place of compiling a pattern. -/
inductive CompileFault where
  | panic (panic : Panic)
  | skip
  | reject (message : String)
  /-- Accepts the pattern unseen, and finds no results. -/
  | accept
  deriving DecidableEq, Repr

/-- What is planted for a case. -/
structure Fault where
  compile? : Option CompileFault := none
  panic? : Option Panic := none
  results? : Option (List Result) := none
  deriving DecidableEq, Repr

namespace Contender

/-- Compiles a pattern with the contender's settings. -/
def compile (pattern : List UInt8) (x : Contender) : Except PatternError (String × Matcher) :=
  (MatcherBuilder.ofBytes ⟨x.settings, {}⟩ pattern).map fun m => (x.label, m)

/-- The results of labelled matchers on one input, with one cache shared by all. -/
def searchAll (input : List UInt8) :
    MatcherCache → List (String × Matcher) → Except Panic (List Result)
  | _, [] => .ok []
  | cache, (label, m) :: rest =>
    let outcome := m.search cache input
    match outcome.unwrapped with
    | .error p => .error p
    | .ok isMatch =>
      (searchAll input outcome.cache rest).map (⟨label, .verdict isMatch⟩ :: ·)

/-- Compiles the pattern of a case with all contenders. -/
def compileAll (contenders : List Contender) (c : Case) : Compilation :=
  match contenders.mapM (compile c.pattern) with
  | .error e => .rejected e.message
  | .ok matchers => .compiled fun c => searchAll c.input {} matchers

end Contender

/-- The contenders, the plain settings if there are none, and the faults planted for them. -/
structure Subject where
  contenders : List Contender := []
  faults : List (String × Fault) := []
  deriving DecidableEq, Repr

namespace Subject

/-- The contenders tested. -/
def entrants (s : Subject) : List Contender :=
  if s.contenders.isEmpty then [{}] else s.contenders

/-- What is planted for a case. -/
def fault (s : Subject) (c : Case) : Fault :=
  (s.faults.lookup c.fullName).getD {}

/-- The match function of a case with what is planted there in place of its results. -/
def plant (f : Fault) (matchInput : Case → Except Panic (List Result)) (c : Case) :
    Except Panic (List Result) :=
  match f.panic?, f.results? with
  | some p, _ => .error p
  | none, some results => .ok results
  | none, none => matchInput c

/-- Compiles the pattern of a case. -/
def compile (s : Subject) (c : Case) : Compilation :=
  match (s.fault c).compile? with
  | some (.panic p) => .panicked p
  | some .skip => .skipped
  | some (.reject message) => .rejected message
  | some .accept => .compiled fun _ => .ok []
  | none =>
    match Contender.compileAll s.entrants c with
    | .compiled matchInput => .compiled (plant (s.fault c) matchInput)
    | other => other

end Subject

end StarMatch.Suite
