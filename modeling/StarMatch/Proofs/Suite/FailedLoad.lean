import StarMatch.Proofs.Suite.Loads

/-!
# What a failed load leaves behind

A load that fails keeps no case, but the names of the cases that passed before it failed stay seen.
They come to light when a later load has a case of such a name, which is rejected as a duplicate of a
case that is not there. Loads without one go as if the failed load had never been made, so it leaves
no trace exactly if no case passes in it.
-/

namespace StarMatch.Suite.Collection

variable {c c' : Collection} {l : Load} {e : LoadError} {names : List String}

theorem rejection?_of_failed (h : (c.apply l).2 = .error e) : l.rejection? c.seen = some e := by
  rw [apply_eq] at h
  split at h
  · next e' hrejection => rw [hrejection, Except.error.inj h]
  · cases h

theorem apply_of_failed (h : (c.apply l).2 = .error e) :
    (c.apply l).1 = { c with seen := c.passedNames l ++ c.seen } := by
  rw [apply_eq, rejection?_of_failed h]

/-- The same cases are kept, and of all names but the given ones the same have been seen. -/
structure AgreesBut (names : List String) (c c' : Collection) : Prop where
  cases : c.cases = c'.cases
  seen : ∀ name, name ∉ names → (name ∈ c.seen ↔ name ∈ c'.seen)

/-- A load of cases that have none of the names goes alike in both collections. -/
theorem AgreesBut.apply (h : AgreesBut names c c')
    (havoids : ∀ case ∈ l.cases, case.fullName ∉ names) :
    (c.apply l).2 = (c'.apply l).2 ∧ AgreesBut names (c.apply l).1 (c'.apply l).1 := by
  have hseen : ∀ case ∈ l.cases, case.fullName ∈ c.seen ↔ case.fullName ∈ c'.seen :=
    fun case hcase => h.seen case.fullName (havoids case hcase)
  have hrejection : l.rejection? c.seen = l.rejection? c'.seen := by
    rw [Load.rejection?, Load.rejection?, firstRejection?_congr hseen]
  have hnames : c.passedNames l = c'.passedNames l := by
    rw [passedNames, passedNames, passing_congr hseen]
  have hseen' : ∀ name, name ∉ names →
      (name ∈ c.passedNames l ++ c.seen ↔ name ∈ c'.passedNames l ++ c'.seen) := by
    intro name hname
    rw [List.mem_append, List.mem_append, hnames, h.seen name hname]
  rw [apply_eq c, apply_eq c', hrejection]
  cases l.rejection? c'.seen with
  | some e => exact ⟨rfl, h.cases, hseen'⟩
  | none => exact ⟨rfl, congrArg (· ++ l.cases) h.cases, hseen'⟩

theorem AgreesBut.history (h : AgreesBut names c c') {later : List Load}
    (havoids : ∀ l ∈ later, ∀ case ∈ l.cases, case.fullName ∉ names) :
    (c.history later).map Prod.snd = (c'.history later).map Prod.snd := by
  induction later generalizing c c' with
  | nil => rfl
  | cons l later ih =>
    obtain ⟨hl, hlater⟩ := List.forall_mem_cons.mp havoids
    obtain ⟨hresult, hagrees⟩ := h.apply hl
    rw [Collection.history, Collection.history, List.map_cons, List.map_cons, hresult,
      ih hagrees hlater]

theorem AgreesBut.applyAll (h : AgreesBut names c c') {later : List Load}
    (havoids : ∀ l ∈ later, ∀ case ∈ l.cases, case.fullName ∉ names) :
    AgreesBut names (c.applyAll later) (c'.applyAll later) := by
  induction later generalizing c c' with
  | nil => exact h
  | cons l later ih =>
    obtain ⟨hl, hlater⟩ := List.forall_mem_cons.mp havoids
    exact ih (h.apply hl).2 hlater

theorem agreesBut_of_failed (h : (c.apply l).2 = .error e) :
    AgreesBut (c.passedNames l) (c.apply l).1 c := by
  rw [apply_of_failed h]
  refine ⟨rfl, fun name hname => ?_⟩
  rw [List.mem_append]
  exact or_iff_right hname

theorem exists_passed_of_passedNames_ne_nil (h : c.passedNames l ≠ []) :
    ∃ case cases, l.cases = case :: cases ∧ case.rejection? c.seen = none ∧
      case.fullName ∈ c.passedNames l := by
  rw [passedNames] at h ⊢
  cases hcases : l.cases with
  | nil =>
    rw [hcases] at h
    exact absurd rfl h
  | cons case cases =>
    cases hrejection : case.rejection? c.seen with
    | some e =>
      rw [hcases, passing_cons_of_rejected hrejection] at h
      exact absurd rfl h
    | none =>
      refine ⟨case, cases, rfl, hrejection, ?_⟩
      rw [passing_cons_of_passed hrejection]
      simp

/-- A document can hold the first test of another one alone. -/
theorem exists_single_of_drafts {written : Document} {d : Draft} {drafts : List Draft}
    (h : written.drafts? = some (d :: drafts)) :
    ∃ single : Document, single.drafts? = some [d] := by
  unfold Document.drafts? at h
  split at h
  · next items =>
    cases items with
    | nil => cases h
    | cons item items =>
      rw [List.mapM_cons, Option.bind_eq_bind, Option.bind_eq_some_iff] at h
      obtain ⟨d', hitem, h⟩ := h
      rw [Option.bind_eq_bind, Option.bind_eq_some_iff] at h
      obtain ⟨drafts', -, h⟩ := h
      obtain ⟨rfl, -⟩ := List.cons.inj (Option.some.inj h)
      exact ⟨.holding (some (.list [item])), by simp [Document.drafts?, hitem]⟩
  · cases h

/-- Another load can hold the first case of a load alone. -/
theorem exists_single_of_cases {case : Case} {cases : List Case} (h : l.cases = case :: cases) :
    ∃ single : Load, single.cases = [case] := by
  unfold Load.cases at h
  split at h
  · cases h
  · next group drafts hreading =>
    obtain ⟨written, hwritten⟩ : ∃ written : Document, written.drafts? = some drafts := by
      rcases Load.exists_of_reading hreading with ⟨written, -, hdrafts⟩ |
        ⟨-, written, -, -, -, -, -, hdrafts⟩
      · exact ⟨written, hdrafts⟩
      · exact ⟨written, hdrafts⟩
    cases drafts with
    | nil => cases h
    | cons d drafts =>
      obtain ⟨single, hsingle⟩ := exists_single_of_drafts hwritten
      obtain ⟨hcase, -⟩ := List.cons.inj h
      refine ⟨.document group single, ?_⟩
      rw [Load.cases, Load.reading, hsingle]
      exact congrArg (fun case => [case]) hcase

/-- A name that a failed load leaves seen stops a later load of the case that has it. -/
theorem exists_diverging_load (hfailed : (c.apply l).2 = .error e) (h : c.passedNames l ≠ []) :
    ∃ single : Load, (c.apply single).2 = .ok () ∧ ((c.apply l).1.apply single).2 ≠ .ok () := by
  obtain ⟨case, cases, hcases, hrejection, hname⟩ := exists_passed_of_passedNames_ne_nil h
  obtain ⟨single, hsingle⟩ := exists_single_of_cases hcases
  refine ⟨single, (apply_single_eq_ok_iff hsingle).mpr hrejection, ?_⟩
  rw [Ne, apply_single_eq_ok_iff hsingle, rejection?_eq_none_iff, apply_of_failed hfailed]
  rintro ⟨-, hunseen⟩
  exact hunseen (List.mem_append_left c.seen hname)

/-- A failed load keeps no case and leaves the names of those that passed in it seen. Loads that use
none of these names go as if it had not been made; and all loads do so exactly if there is none. -/
theorem failed_load_leaves_passed_names (c : Collection) (l : Load) (e : LoadError)
    (hfailed : (c.apply l).2 = .error e) :
    let failed := (c.apply l).1
    let unnoticed (later : List Load) :=
      (failed.history later).map Prod.snd = (c.history later).map Prod.snd ∧
        (failed.applyAll later).cases = (c.applyAll later).cases
    failed.cases = c.cases ∧ failed.seen = c.passedNames l ++ c.seen ∧
      (∀ later, (∀ l' ∈ later, ∀ case ∈ l'.cases, case.fullName ∉ c.passedNames l) →
        unnoticed later) ∧
      ((∀ later, unnoticed later) ↔ c.passedNames l = []) := by
  intro failed unnoticed
  have hagrees : AgreesBut (c.passedNames l) failed c := agreesBut_of_failed hfailed
  have hseen : failed.seen = c.passedNames l ++ c.seen :=
    congrArg Collection.seen (apply_of_failed hfailed)
  have havoiding : ∀ later, (∀ l' ∈ later, ∀ case ∈ l'.cases, case.fullName ∉ c.passedNames l) →
      unnoticed later :=
    fun later havoids => ⟨hagrees.history havoids, (hagrees.applyAll havoids).cases⟩
  refine ⟨hagrees.cases, hseen, havoiding, ?_, ?_⟩
  · intro hunnoticed
    refine Decidable.byContradiction fun hnames => ?_
    obtain ⟨single, hok, hstopped⟩ := exists_diverging_load hfailed hnames
    obtain ⟨hresults, -⟩ := hunnoticed [single]
    obtain ⟨hresult, -⟩ := List.cons.inj hresults
    exact hstopped (hresult.trans hok)
  · intro hnames later
    refine havoiding later fun l' _ case _ => ?_
    rw [hnames]
    exact List.not_mem_nil

/-- A load of two tests, of which the second has the given entries besides its name and pattern. -/
def twoTests (second : List (String × Value)) : Load :=
  .document "g" (.holding (some (.list
    [.table
        [("name", .text "a"), ("pattern", .text "x"), ("input", .text "x"), ("match", .flag true)],
      .table ([("name", .text "b"), ("pattern", .text "x")] ++ second)])))

theorem failed_load_leaves_passed_names_second_invalid :
    let c : Collection := {}
    let failed := (c.apply (twoTests [])).1
    (c.apply (twoTests [])).2 = .error (.invalid "g/b" .missingMatch) ∧ failed.cases = [] ∧
      failed.seen = ["g/a"] ∧
      ¬ ∀ later, (failed.history later).map Prod.snd = (c.history later).map Prod.snd ∧
        (failed.applyAll later).cases = (c.applyAll later).cases := by
  intro c failed
  have hfailed : (c.apply (twoTests [])).2 = .error (.invalid "g/b" .missingMatch) := by rfl
  have hnames : c.passedNames (twoTests []) = ["g/a"] := by rfl
  obtain ⟨hcases, hseen, -, hnoticed⟩ := failed_load_leaves_passed_names c (twoTests []) _ hfailed
  rw [hnames] at hseen hnoticed
  refine ⟨hfailed, hcases, hseen, ?_⟩
  rw [hnoticed]
  exact List.cons_ne_nil "g/a" []

/-- Once its second test is repaired, the document is still not loaded: its first test is rejected as
a duplicate, though no test has been kept. Had it not been loaded before, both would be kept. -/
theorem failed_load_blocks_repaired_document :
    let c : Collection := {}
    let failed := (c.apply (twoTests [])).1
    let repaired := twoTests [("match", .flag false)]
    (c.apply (twoTests [])).2 = .error (.invalid "g/b" .missingMatch) ∧
      (failed.history [repaired]).map Prod.snd = [.error (.duplicate "g/a")] ∧
      (failed.applyAll [repaired]).cases = [] ∧
      (c.history [repaired]).map Prod.snd = [.ok ()] ∧
      (c.applyAll [repaired]).cases.map Case.fullName = ["g/a", "g/b"] := by
  refine ⟨?_, ?_, ?_, ?_, ?_⟩ <;> rfl

end StarMatch.Suite.Collection
