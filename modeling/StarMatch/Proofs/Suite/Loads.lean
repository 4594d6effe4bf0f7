import StarMatch.Proofs.Suite.Drafts

/-!
# What a load does

A load either does not get as far as checking cases, and then changes nothing, or it checks the cases
of a document, which stands by itself or in a file. It keeps all of them or none, and in either case
the names of those that pass count as seen from then on.
-/

namespace StarMatch.Suite

namespace Load

/-- The group and the drafts that a load comes to check, or why it does not get that far. -/
def reading : Load → Except LoadError (String × List Draft)
  | document group written =>
    match written.drafts? with
    | none => .error .undecodable
    | some drafts => .ok (group, drafts)
  | file f =>
    match f.document? with
    | none => .error (.missingFile f.path)
    | some written =>
      match Text.Utf8.decode? f.stem with
      | none => .error (.unnamableGroup f.path)
      | some group =>
        match written.drafts? with
        | none => .error (.inFile f.path .undecodable)
        | some drafts => .ok (String.ofList group, drafts)

/-- The cases that a load comes to check. -/
def cases (l : Load) : List Case :=
  match l.reading with
  | .error _ => []
  | .ok (group, drafts) => casesOf group 1 drafts

/-- How a load reports that one of its cases is rejected. -/
def report : Load → LoadError → LoadError
  | document _ _, e => e
  | file f, e => .inFile f.path e

/-- Why a load fails where the given names have been seen. -/
def rejection? (l : Load) (seen : List String) : Option LoadError :=
  match l.reading with
  | .error e => some e
  | .ok _ => (firstRejection? seen l.cases).map l.report

variable {l : Load} {group : String} {drafts : List Draft}

/-- What is checked stands in a document, given by itself or in a file. -/
theorem exists_of_reading (h : l.reading = .ok (group, drafts)) :
    (∃ written, l = .document group written ∧ written.drafts? = some drafts) ∨
      ∃ f written stem, l = .file f ∧ f.document? = some written ∧
        Text.Utf8.decode? f.stem = some stem ∧ group = String.ofList stem ∧
        written.drafts? = some drafts := by
  cases l with
  | document group' written =>
    rw [reading] at h
    split at h
    · cases h
    · next drafts' hdrafts =>
      obtain ⟨rfl, rfl⟩ := Prod.mk.inj (Except.ok.inj h)
      exact .inl ⟨written, rfl, hdrafts⟩
  | file f =>
    rw [reading] at h
    split at h
    · cases h
    · next written hfile =>
      split at h
      · cases h
      · next stem hstem =>
        split at h
        · cases h
        · next drafts' hdrafts =>
          obtain ⟨hgroup, rfl⟩ := Prod.mk.inj (Except.ok.inj h)
          exact .inr ⟨f, written, stem, rfl, hfile, hstem, hgroup.symm, hdrafts⟩

theorem rejection?_of_cases_ne_nil (h : l.cases ≠ []) (seen : List String) :
    l.rejection? seen = (firstRejection? seen l.cases).map l.report := by
  rw [rejection?]
  split
  · next e hreading =>
    rw [cases, hreading] at h
    exact absurd rfl h
  · rfl

end Load

namespace Collection

/-- The names of the cases that pass in a load, the latest in front. -/
def passedNames (c : Collection) (l : Load) : List String :=
  ((passing c.seen l.cases).map Case.fullName).reverse

variable {c : Collection} {l : Load} {e : LoadError} {group : String} {drafts : List Draft}

theorem apply_of_unread (h : l.reading = .error e) : c.apply l = (c, .error e) := by
  cases l with
  | document group written =>
    rw [Load.reading] at h
    split at h
    · next hdrafts => rw [apply, load, hdrafts, ← Except.error.inj h]
    · cases h
  | file f =>
    rw [Load.reading] at h
    split at h
    · next hfile => rw [apply, loadFile, hfile, ← Except.error.inj h]
    · next written hfile =>
      split at h
      · next hgroup => simp only [apply, loadFile, hfile, hgroup, ← Except.error.inj h]
      · next group hgroup =>
        split at h
        · next hdrafts =>
          simp only [apply, loadFile, hfile, hgroup, load, hdrafts, ← Except.error.inj h]
          rfl
        · cases h

theorem apply_of_read (h : l.reading = .ok (group, drafts)) :
    c.apply l =
      ((c.loadDrafts group drafts).1, (c.loadDrafts group drafts).2.mapError l.report) := by
  rcases Load.exists_of_reading h with ⟨written, rfl, hdrafts⟩ |
    ⟨f, written, stem, rfl, hfile, hstem, rfl, hdrafts⟩
  · rw [apply, load, hdrafts]
    cases hresult : (c.loadDrafts group drafts).2 <;> exact Prod.ext rfl hresult
  · simp only [apply, loadFile, hfile, hstem, load, hdrafts]
    rfl

theorem loadDrafts_eq (c : Collection) (group : String) (drafts : List Draft) :
    c.loadDrafts group drafts =
      let passed := ((passing c.seen (casesOf group 1 drafts)).map Case.fullName).reverse
      match firstRejection? c.seen (casesOf group 1 drafts) with
      | some e => ({ c with seen := passed ++ c.seen }, .error e)
      | none => (⟨c.cases ++ casesOf group 1 drafts, passed ++ c.seen⟩, .ok ()) := by
  rw [loadDrafts, checkDrafts_eq]
  cases firstRejection? c.seen (casesOf group 1 drafts) <;> rfl

/-- The names that pass in a load count as seen afterwards, and the cases are kept if none of them is
rejected. -/
theorem apply_eq (c : Collection) (l : Load) :
    c.apply l =
      match l.rejection? c.seen with
      | some e => ({ c with seen := c.passedNames l ++ c.seen }, .error e)
      | none => (⟨c.cases ++ l.cases, c.passedNames l ++ c.seen⟩, .ok ()) := by
  cases hreading : l.reading with
  | error e =>
    rw [apply_of_unread hreading, passedNames, Load.rejection?, Load.cases, hreading]
    rfl
  | ok read =>
    obtain ⟨group, drafts⟩ := read
    rw [apply_of_read hreading, loadDrafts_eq, passedNames, Load.rejection?, Load.cases, hreading]
    cases firstRejection? c.seen (casesOf group 1 drafts) <;> rfl

/-- A load of one case alone succeeds exactly if the case is not rejected. -/
theorem apply_single_eq_ok_iff {case : Case} (h : l.cases = [case]) :
    (c.apply l).2 = .ok () ↔ case.rejection? c.seen = none := by
  have hrejection := Load.rejection?_of_cases_ne_nil (h ▸ List.cons_ne_nil case []) c.seen
  rw [h, firstRejection?_singleton] at hrejection
  rw [apply_eq, hrejection]
  cases case.rejection? c.seen <;> simp

end Collection

end StarMatch.Suite
