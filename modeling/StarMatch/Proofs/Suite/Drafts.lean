import StarMatch.Suite.Collection

/-!
# What a check of drafts does

The cases that drafts become depend on the group and on the drafts alone. Checking them goes through
the cases in order up to the first that is rejected, and the names of those before it count as seen
from then on. What becomes of the cases depends on the names seen before only through the names that
the cases have themselves.
-/

namespace StarMatch.Suite

/-- The cases that drafts become, given the number for the next draft without a name. -/
def casesOf (group : String) : Int32 → List Draft → List Case
  | _, [] => []
  | number, d :: drafts =>
    d.toCase group (d.nameOr number).1 :: casesOf group (d.nameOr number).2 drafts

/-- Why a case is rejected where the given names have been seen. -/
def Case.rejection? (c : Case) (seen : List String) : Option LoadError :=
  match c.fault? with
  | some fault => some (.invalid c.fullName fault)
  | none => if c.fullName ∈ seen then some (.duplicate c.fullName) else none

/-- The cases before the first that is rejected. -/
def passing (seen : List String) : List Case → List Case
  | [] => []
  | c :: cases =>
    match c.rejection? seen with
    | some _ => []
    | none => c :: passing (c.fullName :: seen) cases

/-- Why the first case that is rejected is rejected. -/
def firstRejection? (seen : List String) : List Case → Option LoadError
  | [] => none
  | c :: cases =>
    match c.rejection? seen with
    | some e => some e
    | none => firstRejection? (c.fullName :: seen) cases

section Check

variable {group : String} {number : Int32} {seen seen' : List String} {drafts : List Draft}
  {c : Case} {cases : List Case} {e : LoadError}

theorem passing_cons_of_rejected (h : c.rejection? seen = some e) (cases : List Case) :
    passing seen (c :: cases) = [] := by
  rw [passing, h]

theorem passing_cons_of_passed (h : c.rejection? seen = none) (cases : List Case) :
    passing seen (c :: cases) = c :: passing (c.fullName :: seen) cases := by
  rw [passing, h]

theorem firstRejection?_cons_of_rejected (h : c.rejection? seen = some e) (cases : List Case) :
    firstRejection? seen (c :: cases) = some e := by
  rw [firstRejection?, h]

theorem firstRejection?_cons_of_passed (h : c.rejection? seen = none) (cases : List Case) :
    firstRejection? seen (c :: cases) = firstRejection? (c.fullName :: seen) cases := by
  rw [firstRejection?, h]

theorem rejection?_eq_none_iff :
    c.rejection? seen = none ↔ c.fault? = none ∧ c.fullName ∉ seen := by
  rw [Case.rejection?]
  cases c.fault? <;> simp

theorem checkDrafts_cons_of_rejected {d : Draft} (hc : d.toCase group (d.nameOr number).1 = c)
    (h : c.rejection? seen = some e) :
    checkDrafts group seen number (d :: drafts) = (seen, .error e) := by
  rw [Case.rejection?] at h
  cases hfault : c.fault? with
  | some fault =>
    rw [hfault] at h
    simp only [checkDrafts, hc, hfault, Option.some.inj h]
  | none =>
    by_cases hseen : c.fullName ∈ seen
    · simp only [hfault, if_pos hseen, Option.some.injEq] at h
      simp [checkDrafts, hc, hfault, hseen, h]
    · simp [hfault, hseen] at h

theorem checkDrafts_cons_of_passed {d : Draft} (hc : d.toCase group (d.nameOr number).1 = c)
    (h : c.rejection? seen = none) :
    checkDrafts group seen number (d :: drafts) =
      let checked := checkDrafts group (c.fullName :: seen) (d.nameOr number).2 drafts
      (checked.1, checked.2.map (c :: ·)) := by
  obtain ⟨hfault, hseen⟩ := rejection?_eq_none_iff.mp h
  simp [checkDrafts, hc, hfault, hseen]

/-- The names that pass count as seen afterwards, and the drafts become cases if they all pass. -/
theorem checkDrafts_eq :
    checkDrafts group seen number drafts =
      (((passing seen (casesOf group number drafts)).map Case.fullName).reverse ++ seen,
        match firstRejection? seen (casesOf group number drafts) with
        | some e => .error e
        | none => .ok (casesOf group number drafts)) := by
  induction drafts generalizing seen number with
  | nil => rfl
  | cons d drafts ih =>
    rw [casesOf]
    generalize hc : d.toCase group (d.nameOr number).1 = c
    cases hrejection : c.rejection? seen with
    | some e =>
      rw [passing_cons_of_rejected hrejection, firstRejection?_cons_of_rejected hrejection,
        checkDrafts_cons_of_rejected hc hrejection]
      rfl
    | none =>
      rw [passing_cons_of_passed hrejection, firstRejection?_cons_of_passed hrejection,
        checkDrafts_cons_of_passed hc hrejection, ih]
      refine Prod.ext ?_ ?_
      · simp
      · dsimp only
        generalize casesOf group (d.nameOr number).2 drafts = cases
        cases firstRejection? (c.fullName :: seen) cases <;> rfl

theorem firstRejection?_singleton (c : Case) (seen : List String) :
    firstRejection? seen [c] = c.rejection? seen := by
  rw [firstRejection?]
  cases c.rejection? seen <;> rfl

theorem rejection?_congr (h : c.fullName ∈ seen ↔ c.fullName ∈ seen') :
    c.rejection? seen = c.rejection? seen' := by
  unfold Case.rejection?
  simp only [h]

theorem mem_cons_congr (h : ∀ c ∈ cases, c.fullName ∈ seen ↔ c.fullName ∈ seen') (name : String) :
    ∀ c ∈ cases, c.fullName ∈ name :: seen ↔ c.fullName ∈ name :: seen' := by
  intro c hc
  rw [List.mem_cons, List.mem_cons, h c hc]

theorem passing_congr (h : ∀ c ∈ cases, c.fullName ∈ seen ↔ c.fullName ∈ seen') :
    passing seen cases = passing seen' cases := by
  induction cases generalizing seen seen' with
  | nil => rfl
  | cons c cases ih =>
    obtain ⟨hc, hcases⟩ := List.forall_mem_cons.mp h
    have hc' := rejection?_congr hc
    cases hrejection : c.rejection? seen with
    | some e =>
      rw [passing_cons_of_rejected hrejection, passing_cons_of_rejected (hc' ▸ hrejection)]
    | none =>
      rw [passing_cons_of_passed hrejection, passing_cons_of_passed (hc' ▸ hrejection),
        ih (mem_cons_congr hcases c.fullName)]

theorem firstRejection?_congr (h : ∀ c ∈ cases, c.fullName ∈ seen ↔ c.fullName ∈ seen') :
    firstRejection? seen cases = firstRejection? seen' cases := by
  induction cases generalizing seen seen' with
  | nil => rfl
  | cons c cases ih =>
    obtain ⟨hc, hcases⟩ := List.forall_mem_cons.mp h
    have hc' := rejection?_congr hc
    cases hrejection : c.rejection? seen with
    | some e =>
      rw [firstRejection?_cons_of_rejected hrejection,
        firstRejection?_cons_of_rejected (hc' ▸ hrejection)]
    | none =>
      rw [firstRejection?_cons_of_passed hrejection,
        firstRejection?_cons_of_passed (hc' ▸ hrejection), ih (mem_cons_congr hcases c.fullName)]

end Check

end StarMatch.Suite
