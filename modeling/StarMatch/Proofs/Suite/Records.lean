import StarMatch.Suite.Runner

/-!
# What a test adds to the records

A test only ever adds records behind those that are there, and what it adds depends on the filters and
on the case alone: it is what the same test adds for a runner that has recorded nothing yet. The
relation `Adds` says what that is for a case that is run, by how compiling and matching turn out.
-/

namespace StarMatch.Suite

namespace Records

/-- The records of one followed, in each list, by those of another. -/
def append (r r' : Records) : Records :=
  ⟨r.passed ++ r'.passed, r.skipped ++ r'.skipped, r.failed ++ r'.failed⟩

instance : Append Records :=
  ⟨append⟩

/-- The records of several, one behind the other in each list. -/
def concat (parts : List Records) : Records :=
  ⟨parts.flatMap passed, parts.flatMap skipped, parts.flatMap failed⟩

/-- The records of the results that a match function returns for a case: a pass for each expected
verdict, a failure for each verdict that is not, a skip for each result that asks for one. -/
def ofResults (c : Case) (results : List Result) : Records where
  passed := (results.filter fun x => x.finding = .verdict c.expectsMatch).map fun x => ⟨c, x⟩
  skipped := (results.filter fun x => x.finding = .skipped).map fun x => ⟨c, x⟩
  failed :=
    (results.filter fun x => x.finding = .verdict (!c.expectsMatch)).map fun x =>
      ⟨c, x, .wrongVerdict⟩

variable (r r' r'' : Records) (c : Case) (x : Result)

@[simp] theorem passed_append : (r ++ r').passed = r.passed ++ r'.passed := rfl

@[simp] theorem skipped_append : (r ++ r').skipped = r.skipped ++ r'.skipped := rfl

@[simp] theorem failed_append : (r ++ r').failed = r.failed ++ r'.failed := rfl

theorem ext {r r' : Records} (hpassed : r.passed = r'.passed) (hskipped : r.skipped = r'.skipped)
    (hfailed : r.failed = r'.failed) : r = r' := by
  cases r
  cases r'
  rw [mk.injEq]
  exact ⟨hpassed, hskipped, hfailed⟩

@[simp] theorem append_empty : r ++ ({} : Records) = r := by
  apply ext <;> simp

@[simp] theorem empty_append : ({} : Records) ++ r = r := by
  apply ext <;> simp

theorem append_assoc : r ++ r' ++ r'' = r ++ (r' ++ r'') := by
  apply ext <;> simp

@[simp] theorem concat_nil : concat [] = {} := rfl

@[simp] theorem concat_cons (parts : List Records) : concat (r :: parts) = r ++ concat parts := rfl

theorem pass_eq_append : r.pass c x = r ++ { passed := [⟨c, x⟩] } := by
  apply ext <;> simp [pass]

theorem skip_eq_append : r.skip c x = r ++ { skipped := [⟨c, x⟩] } := by
  apply ext <;> simp [skip]

theorem fail_eq_append (kind : FailureKind) :
    r.fail c x kind = r ++ { failed := [⟨c, x, kind⟩] } := by
  apply ext <;> simp [fail]

@[simp] theorem ofResults_nil : ofResults c [] = {} := rfl

theorem ofResults_cons (results : List Result) :
    ofResults c (x :: results) = ofResults c [x] ++ ofResults c results := by
  apply ext <;> simp [ofResults, ← List.map_append, ← List.filter_append]

/-- A verdict is the expected one or its opposite, so a result adds at most one record. -/
theorem note_eq_append : r.note c x = r ++ ofResults c [x] := by
  unfold note
  cases hfinding : x.finding with
  | absent =>
    have hnothing : ofResults c [x] = {} := by simp [ofResults, hfinding]
    rw [hnothing, append_empty]
  | skipped =>
    have hskip : ofResults c [x] = { skipped := [⟨c, x⟩] } := by simp [ofResults, hfinding]
    rw [hskip, ← skip_eq_append]
  | verdict isMatch =>
    by_cases hexpected : isMatch = c.expectsMatch
    · have hpass : ofResults c [x] = { passed := [⟨c, x⟩] } := by
        simp [ofResults, hfinding, hexpected]
      simp only [if_pos hexpected, hpass, pass_eq_append]
    · have hfail : ofResults c [x] = { failed := [⟨c, x, .wrongVerdict⟩] } := by
        have hopposite : isMatch = !c.expectsMatch := by
          cases isMatch <;> cases hmatch : c.expectsMatch <;> simp_all
        simp [ofResults, hfinding, hopposite]
      simp only [if_neg hexpected, hfail, fail_eq_append]

theorem foldl_note (results : List Result) :
    results.foldl (fun r x => r.note c x) r = r ++ ofResults c results := by
  induction results generalizing r with
  | nil => rw [List.foldl_nil, ofResults_nil, append_empty]
  | cons x results ih => rw [List.foldl_cons, ih, note_eq_append, append_assoc, ← ofResults_cons]

end Records

namespace Runner

variable (compile : Case → Compilation) (r : Runner) (c : Case)

/-- What running a case alone, on a runner with the given filters and no records, records. -/
def alone (filters : List Filter) (compile : Case → Compilation) (c : Case) : Records :=
  (testAll compile { filters } [c]).records

theorem alone_of_filtered {filters : List Filter}
    (h : Filter.allow filters c.fullName.toList = false) :
    alone filters compile c = { skipped := [⟨c, ⟨"", .absent⟩⟩] } := by
  unfold alone testAll
  simp only [List.foldl_cons, List.foldl_nil, testAllowed, h, Bool.false_eq_true, if_false]
  rfl

theorem alone_of_allowed {filters : List Filter}
    (h : Filter.allow filters c.fullName.toList = true) :
    alone filters compile c = (test compile {} c).records := by
  unfold alone testAll
  simp only [List.foldl_cons, List.foldl_nil, testAllowed, h, if_true]
  rfl

theorem records_test : (r.test compile c).records = r.records ++ (test compile {} c).records := by
  unfold test
  simp only
  cases compile c with
  | panicked p => simp only [Records.fail_eq_append, Records.empty_append]
  | rejected message =>
    cases c.compiles <;>
      simp only [Records.fail_eq_append, Records.pass_eq_append, Records.empty_append,
        Bool.false_eq_true, if_true, if_false]
  | skipped =>
    cases c.compiles <;>
      simp only [Records.fail_eq_append, Records.note_eq_append, Records.empty_append,
        Bool.false_eq_true, if_true, if_false]
  | compiled matchInput =>
    cases c.compiles with
    | false =>
      simp only [Records.fail_eq_append, Records.empty_append, Bool.false_eq_true, if_false]
    | true =>
      simp only [if_true]
      cases hmatch : matchInput c <;>
        simp only [Records.fail_eq_append, Records.foldl_note, Records.empty_append]

/-- What a test adds is what it adds to no records, and the filters stay. -/
theorem testAllowed_eq :
    testAllowed compile r c = { r with records := r.records ++ alone r.filters compile c } := by
  unfold testAllowed
  cases hallow : Filter.allow r.filters c.fullName.toList with
  | true =>
    rw [if_pos rfl, alone_of_allowed compile c hallow, ← records_test]
    rfl
  | false =>
    rw [if_neg Bool.false_ne_true, alone_of_filtered compile c hallow, Records.skip_eq_append]

/-- The records that a case adds when it is run. -/
inductive Adds (compile : Case → Compilation) (c : Case) : Records → Prop
  | panickedCompiling {p : Panic} (hcompile : compile c = .panicked p) :
    Adds compile c { failed := [⟨c, ⟨"", .skipped⟩, .panickedCompiling (showPanic p)⟩] }
  /-- The pattern is rejected, as it should be. -/
  | rejectedRightly {message : String} (hcompile : compile c = .rejected message)
    (hcompiles : c.compiles = false) :
    Adds compile c { passed := [⟨c, ⟨"", .absent⟩⟩] }
  | rejectedWrongly {message : String} (hcompile : compile c = .rejected message)
    (hcompiles : c.compiles = true) :
    Adds compile c { failed := [⟨c, ⟨"", .skipped⟩, .rejected message⟩] }
  /-- The pattern should have been rejected. The match function has no part in this, so one that would
  panic leads to the same record. -/
  | acceptedWrongly
    (hcompile : compile c = .skipped ∨ ∃ matchInput, compile c = .compiled matchInput)
    (hcompiles : c.compiles = false) :
    Adds compile c { failed := [⟨c, ⟨"", .skipped⟩, .accepted⟩] }
  | skipped (hcompile : compile c = .skipped) (hcompiles : c.compiles = true) :
    Adds compile c { skipped := [⟨c, ⟨"", .skipped⟩⟩] }
  | panickedMatching {matchInput : Case → Except Panic (List Result)} {p : Panic}
    (hcompile : compile c = .compiled matchInput) (hcompiles : c.compiles = true)
    (hmatch : matchInput c = .error p) :
    Adds compile c { failed := [⟨c, ⟨"", .skipped⟩, .panickedMatching (showPanic p)⟩] }
  | matched {matchInput : Case → Except Panic (List Result)} {results : List Result}
    (hcompile : compile c = .compiled matchInput) (hcompiles : c.compiles = true)
    (hmatch : matchInput c = .ok results) :
    Adds compile c (.ofResults c results)

theorem adds_records_test : Adds compile c (test compile {} c).records := by
  unfold test
  simp only
  cases hcompile : compile c with
  | panicked p => exact .panickedCompiling hcompile
  | rejected message =>
    cases hcompiles : c.compiles with
    | true => exact .rejectedWrongly hcompile hcompiles
    | false => exact .rejectedRightly hcompile hcompiles
  | skipped =>
    cases hcompiles : c.compiles with
    | true => exact .skipped hcompile hcompiles
    | false => exact .acceptedWrongly (.inl hcompile) hcompiles
  | compiled matchInput =>
    cases hcompiles : c.compiles with
    | true =>
      simp only [if_true]
      cases hmatch : matchInput c with
      | error p => exact .panickedMatching hcompile hcompiles hmatch
      | ok results =>
        simp only [Records.foldl_note, Records.empty_append]
        exact .matched hcompile hcompiles hmatch
    | false => exact .acceptedWrongly (.inr ⟨matchInput, hcompile⟩) hcompiles

theorem Adds.records_test_eq {added : Records} (h : Adds compile c added) :
    (test compile {} c).records = added := by
  unfold test
  cases h with
  | panickedCompiling hcompile => simp only [hcompile]; rfl
  | rejectedRightly hcompile hcompiles => simp only [hcompile, hcompiles]; rfl
  | rejectedWrongly hcompile hcompiles => simp only [hcompile, hcompiles]; rfl
  | acceptedWrongly hcompile hcompiles =>
    rcases hcompile with hcompile | ⟨matchInput, hcompile⟩
    · simp only [hcompile, hcompiles]; rfl
    · simp only [hcompile, hcompiles]; rfl
  | skipped hcompile hcompiles => simp only [hcompile, hcompiles]; rfl
  | panickedMatching hcompile hcompiles hmatch => simp only [hcompile, hcompiles, hmatch]; rfl
  | matched hcompile hcompiles hmatch =>
    simp only [hcompile, hcompiles, hmatch, if_true, Records.foldl_note, Records.empty_append]

/-- What a case adds stands behind what has been recorded before it, and the filters stay. -/
theorem exists_adds_of_test :
    ∃ added, Adds compile c added ∧ r.test compile c = { r with records := r.records ++ added } := by
  refine ⟨_, adds_records_test compile c, ?_⟩
  rw [← records_test]
  rfl

/-- How compiling and matching turn out leaves no choice of what a case adds. -/
theorem alone_eq_iff_adds {filters : List Filter} {added : Records}
    (h : Filter.allow filters c.fullName.toList = true) :
    alone filters compile c = added ↔ Adds compile c added := by
  rw [alone_of_allowed compile c h]
  constructor
  · rintro rfl
    exact adds_records_test compile c
  · exact Adds.records_test_eq compile c

end Runner

end StarMatch.Suite
