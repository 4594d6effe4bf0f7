import StarMatch.Proofs.Suite.Records
import StarMatch.Suite.Report
import StarMatch.Suite.Subject

/-!
# What a run records

The records of a run are those that its cases add, one case after the other, so no case has a part in
what another one adds. A run that reports no failure has a pass or a skip of every case but those
that are silent: a case whose match function finds out nothing adds no record, and the run goes as
if it had not been there.
-/

namespace StarMatch.Suite

theorem Records.report?_eq_none_iff {r : Records} : r.report? = none ↔ r.failed = [] := by
  unfold report?
  by_cases h : r.failed = []
  · simp [h]
  · simp [h, List.isEmpty_iff]

theorem Records.mem_passed_concat {record : Record} {parts : List Records} :
    record ∈ (concat parts).passed ↔ ∃ part ∈ parts, record ∈ part.passed :=
  List.mem_flatMap

theorem Records.mem_skipped_concat {record : Record} {parts : List Records} :
    record ∈ (concat parts).skipped ↔ ∃ part ∈ parts, record ∈ part.skipped :=
  List.mem_flatMap

theorem Records.failed_eq_nil_of_concat {parts : List Records} (h : (concat parts).failed = [])
    {part : Records} (hpart : part ∈ parts) : part.failed = [] :=
  List.flatMap_eq_nil_iff.mp h part hpart

/-- Parts that hold no record can be left out. -/
theorem Records.concat_filter {α : Type} (part : α → Records) (keep : α → Bool) {xs : List α}
    (h : ∀ x ∈ xs, keep x = false → part x = {}) :
    concat ((xs.filter keep).map part) = concat (xs.map part) := by
  induction xs with
  | nil => rfl
  | cons x xs ih =>
    obtain ⟨hx, hxs⟩ := List.forall_mem_cons.mp h
    cases hkeep : keep x with
    | true => rw [List.filter_cons_of_pos hkeep, List.map_cons, List.map_cons, concat_cons,
        concat_cons, ih hxs]
    | false => rw [List.filter_cons_of_neg (by simp [hkeep]), List.map_cons, concat_cons, hx hkeep,
        empty_append, ih hxs]

namespace Runner

/-- Runs the cases that the filters allow, each with the compile function that it meets at its turn. A
compile function that keeps a state of its own is another function at each turn. -/
def testTurns (r : Runner) (turns : List ((Case → Compilation) × Case)) : Runner :=
  turns.foldl (fun r turn => testAllowed turn.1 r turn.2) r

/-- A case that is run, whose pattern is rightly accepted, and whose match function finds out
nothing. -/
def isSilent (filters : List Filter) (compile : Case → Compilation) (c : Case) : Bool :=
  Filter.allow filters c.fullName.toList && c.compiles &&
    match compile c with
    | .compiled matchInput =>
      match matchInput c with
      | .ok results => results.all (·.finding = .absent)
      | .error _ => false
    | _ => false

variable {filters : List Filter} {compile : Case → Compilation} {r : Runner} {c : Case}

theorem testAll_eq_testTurns (compile : Case → Compilation) (r : Runner) (cases : List Case) :
    testAll compile r cases = r.testTurns (cases.map fun c => (compile, c)) := by
  rw [testAll, testTurns, List.foldl_map]

/-- A run adds what its turns add, one behind the other. -/
theorem testTurns_eq (r : Runner) (turns : List ((Case → Compilation) × Case)) :
    r.testTurns turns =
      { r with records := r.records ++ .concat (turns.map fun turn =>
        alone r.filters turn.1 turn.2) } := by
  induction turns generalizing r with
  | nil => simp [testTurns]
  | cons turn turns ih =>
    have hstep : r.testTurns (turn :: turns) = (testAllowed turn.1 r turn.2).testTurns turns := rfl
    rw [hstep, ih, testAllowed_eq, List.map_cons, Records.concat_cons, Records.append_assoc]

theorem alone_congr {compile' : Case → Compilation} (h : compile' c = compile c) :
    alone filters compile' c = alone filters compile c := by
  cases hallowed : Filter.allow filters c.fullName.toList with
  | true => rw [alone_of_allowed _ _ hallowed, alone_of_allowed _ _ hallowed, test, test, h]
  | false => rw [alone_of_filtered _ _ hallowed, alone_of_filtered _ _ hallowed]

/-- A run adds, in each of its lists, what its cases add by themselves, one behind the other. A case
that is not allowed adds one skip; one that is allowed adds what compiling its pattern and matching
its input lead to; and how other cases are compiled has no part in it. -/
theorem testAll_adds_what_cases_add_alone (compile : Case → Compilation) (r : Runner)
    (cases : List Case) :
    (testAll compile r cases).filters = r.filters ∧
      (testAll compile r cases).records =
        r.records ++ .concat (cases.map (alone r.filters compile)) ∧
      (∀ c, Filter.allow r.filters c.fullName.toList = false →
        alone r.filters compile c = { skipped := [⟨c, ⟨"", .absent⟩⟩] }) ∧
      (∀ c added, Filter.allow r.filters c.fullName.toList = true →
        (alone r.filters compile c = added ↔ Adds compile c added)) ∧
      ∀ c compile', compile' c = compile c →
        alone r.filters compile' c = alone r.filters compile c := by
  have hrun := testTurns_eq r (cases.map fun c => (compile, c))
  rw [← testAll_eq_testTurns, List.map_map] at hrun
  refine ⟨?_, ?_, ?_, ?_, ?_⟩
  · rw [hrun]
  · rw [hrun]
    rfl
  · intro c hfiltered
    exact alone_of_filtered compile c hfiltered
  · intro c added hallowed
    exact alone_eq_iff_adds compile c hallowed
  · intro c compile' hcompile
    exact alone_congr hcompile

/-- The second of three cases panics, and the others pass as they do by themselves. -/
theorem testAll_adds_what_cases_add_alone_panic_between :
    let case (name : String) : Case := ⟨"g", name, "g/" ++ name, [97], [97], some true, true⟩
    let compile (c : Case) : Compilation :=
      if c.name = "b" then .panicked .unshowable else .compiled fun _ => .ok [⟨"", .verdict true⟩]
    Adds compile (case "b")
        { failed := [⟨case "b", ⟨"", .skipped⟩,
          .panickedCompiling "UNABLE TO SHOW RESULT OF PANIC."⟩] } ∧
      (testAll compile {} [case "a", case "b", case "c"]).records =
        { passed := [⟨case "a", ⟨"", .verdict true⟩⟩, ⟨case "c", ⟨"", .verdict true⟩⟩]
          failed := [⟨case "b", ⟨"", .skipped⟩,
            .panickedCompiling "UNABLE TO SHOW RESULT OF PANIC."⟩] } := by
  intro case compile
  obtain ⟨-, hrecords, -, hadds, -⟩ :=
    testAll_adds_what_cases_add_alone compile {} [case "a", case "b", case "c"]
  refine ⟨(hadds (case "b") _ rfl).mp rfl, ?_⟩
  rw [hrecords]
  rfl

/-- What a silent case comes to: a list of results that are all absent. -/
theorem exists_results_of_silent (h : isSilent filters compile c = true) :
    ∃ matchInput results, Filter.allow filters c.fullName.toList = true ∧ c.compiles = true ∧
      compile c = .compiled matchInput ∧ matchInput c = .ok results ∧
      ∀ x ∈ results, x.finding = .absent := by
  unfold isSilent at h
  rw [Bool.and_eq_true, Bool.and_eq_true] at h
  obtain ⟨⟨hallowed, hcompiles⟩, h⟩ := h
  cases hcompile : compile c with
  | compiled matchInput =>
    rw [hcompile] at h
    cases hmatch : matchInput c with
    | ok results =>
      simp only [hmatch, List.all_eq_true, decide_eq_true_eq] at h
      exact ⟨matchInput, results, hallowed, hcompiles, rfl, hmatch, h⟩
    | error p => simp [hmatch] at h
  | panicked p => simp [hcompile] at h
  | rejected message => simp [hcompile] at h
  | skipped => simp [hcompile] at h

theorem alone_of_silent (h : isSilent filters compile c = true) : alone filters compile c = {} := by
  obtain ⟨matchInput, results, hallowed, hcompiles, hcompile, hmatch, habsent⟩ :=
    exists_results_of_silent h
  have hnothing : Records.ofResults c results = {} := by
    apply Records.ext <;> simp only [Records.ofResults, List.map_eq_nil_iff, List.filter_eq_nil_iff]
    all_goals
      intro x hx
      simp [habsent x hx]
  rw [alone_eq_iff_adds compile c hallowed, ← hnothing]
  exact .matched hcompile hcompiles hmatch

/-- Results that are neither all absent nor in any case wrong hold a pass or a skip. -/
theorem exists_record_ofResults {results : List Result}
    (hfound : ∃ x ∈ results, x.finding ≠ .absent)
    (hfailed : (Records.ofResults c results).failed = []) :
    ∃ record ∈ (Records.ofResults c results).passed ++ (Records.ofResults c results).skipped,
      record.case = c := by
  obtain ⟨x, hx, hfinding⟩ := hfound
  refine ⟨⟨c, x⟩, ?_, rfl⟩
  rw [List.mem_append]
  cases hverdict : x.finding with
  | absent => exact absurd hverdict hfinding
  | skipped => exact .inr (by simp [Records.ofResults, hx, hverdict])
  | verdict isMatch =>
    have hright : isMatch ≠ !c.expectsMatch := by
      rintro rfl
      simp only [Records.ofResults, List.map_eq_nil_iff, List.filter_eq_nil_iff] at hfailed
      exact hfailed x hx (by simp [hverdict])
    have hexpected : isMatch = c.expectsMatch := by simpa using hright
    exact .inl (by simp [Records.ofResults, hx, hverdict, hexpected])

/-- A case that is not silent adds a pass or a skip if it adds no failure. -/
theorem exists_record_alone (h : isSilent filters compile c = false)
    (hfailed : (alone filters compile c).failed = []) :
    ∃ record ∈ (alone filters compile c).passed ++ (alone filters compile c).skipped,
      record.case = c := by
  cases hallowed : Filter.allow filters c.fullName.toList with
  | false =>
    rw [alone_of_filtered compile c hallowed]
    exact ⟨_, List.mem_singleton_self _, rfl⟩
  | true =>
    have hadds := (alone_eq_iff_adds compile c hallowed).mp rfl
    generalize alone filters compile c = added at hadds hfailed ⊢
    cases hadds with
    | panickedCompiling | rejectedWrongly | acceptedWrongly | panickedMatching => cases hfailed
    | rejectedRightly | skipped => exact ⟨_, List.mem_singleton_self _, rfl⟩
    | matched hcompile hcompiles hmatch =>
      refine exists_record_ofResults ?_ hfailed
      simpa [isSilent, hallowed, hcompiles, hcompile, hmatch] using h

/-- If a run reports no failure, every case in it that is not silent has a pass or a skip. Silent
cases leave no trace: the run is the same without them. -/
theorem unreported_run_misses_only_silent_cases (r : Runner)
    (turns : List ((Case → Compilation) × Case))
    (hreport : (r.testTurns turns).records.report? = none) :
    let records := (r.testTurns turns).records
    (∀ turn ∈ turns, isSilent r.filters turn.1 turn.2 = false →
      ∃ record ∈ records.passed ++ records.skipped, record.case = turn.2) ∧
    r.testTurns (turns.filter fun turn => !isSilent r.filters turn.1 turn.2) =
      r.testTurns turns := by
  have hrun := testTurns_eq r turns
  intro records
  constructor
  · intro turn hturn hspeaks
    rw [hrun, Records.report?_eq_none_iff, Records.failed_append, List.append_eq_nil_iff] at hreport
    have hpart := List.mem_map_of_mem (f := fun turn => alone r.filters turn.1 turn.2) hturn
    obtain ⟨record, hrecord, hcase⟩ :=
      exists_record_alone hspeaks (Records.failed_eq_nil_of_concat hreport.2 hpart)
    refine ⟨record, ?_, hcase⟩
    have hrecords : records = r.records ++ _ := congrArg Runner.records hrun
    rw [hrecords, Records.passed_append, Records.skipped_append]
    rcases List.mem_append.mp hrecord with hpassed | hskipped
    · have hmem := Records.mem_passed_concat.mpr ⟨_, hpart, hpassed⟩
      exact List.mem_append_left _ (List.mem_append_right _ hmem)
    · have hmem := Records.mem_skipped_concat.mpr ⟨_, hpart, hskipped⟩
      exact List.mem_append_right _ (List.mem_append_right _ hmem)
  · have hsilent : ∀ turn ∈ turns, (!isSilent r.filters turn.1 turn.2) = false →
        alone r.filters turn.1 turn.2 = {} := by
      intro turn _ hturn
      exact alone_of_silent (by simpa using hturn)
    rw [hrun, testTurns_eq, Records.concat_filter _ _ hsilent]

/-- A case whose match function returns no results, and behind it one that is rejected as it should
be. -/
theorem unreported_run_misses_only_silent_cases_between :
    let silent : Case := ⟨"g", "a", "g/a", [97], [98], some true, true⟩
    let rejected : Case := ⟨"g", "b", "g/b", [42], [], none, false⟩
    let turns : List ((Case → Compilation) × Case) :=
      [(fun _ => .compiled fun _ => .ok [], silent), (fun _ => .rejected "leading star", rejected)]
    let r : Runner := {}
    (r.testTurns turns).records.report? = none ∧
      (∃ record ∈ (r.testTurns turns).records.passed ++ (r.testTurns turns).records.skipped,
        record.case = rejected) ∧
      r.testTurns [(fun _ => .rejected "leading star", rejected)] = r.testTurns turns := by
  intro silent rejected turns r
  have hreport : (r.testTurns turns).records.report? = none := by rfl
  obtain ⟨hrecorded, hwithout⟩ := unreported_run_misses_only_silent_cases r turns hreport
  exact ⟨hreport, hrecorded _ (List.mem_cons_of_mem _ (List.mem_singleton_self _)) rfl, hwithout⟩

/-- A case that expects a match, and whose match function returns no results, is not reported, though
it has neither passed nor been skipped. -/
theorem silent_case_is_not_reported :
    let c : Case := ⟨"g", "a", "g/a", [97], [98], some true, true⟩
    let subject : Subject := { faults := [("g/a", { results? := some [] })] }
    let records := (testAll subject.compile {} [c]).records
    records.report? = none ∧ ¬ ∃ record ∈ records.passed ++ records.skipped, record.case = c := by
  intro c subject records
  have hrecords : records = {} := by rfl
  rw [hrecords]
  exact ⟨rfl, by simp⟩

end Runner

end StarMatch.Suite
