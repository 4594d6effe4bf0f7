import StarMatch.Proofs.Suite.Loads

/-!
# What a collection keeps

However loads succeed and fail, the cases kept have different names, which have all been seen, and
none of them contradicts itself. A load succeeds exactly if it can be read, its cases have no faults,
and their names are new and different. None of this depends on the order of two loads, so two that
succeed one after the other also succeed the other way round.
-/

namespace StarMatch.Suite

theorem Case.fault?_eq_none_iff {c : Case} : c.fault? = none ↔ c.expected?.isSome = c.compiles := by
  unfold Case.fault?
  cases c.compiles <;> cases c.expected? <;> simp

theorem toString_int32_ne_empty (number : Int32) : toString number ≠ "" := by
  change number.toInt.repr ≠ ""
  cases number.toInt with
  | ofNat n => exact Nat.repr_ne_empty
  | negSucc n =>
    intro h
    exact absurd (String.append_eq_empty_iff.mp h).1 (by decide)

theorem Draft.nameOr_ne_empty (d : Draft) (number : Int32) : (d.nameOr number).1 ≠ "" := by
  unfold nameOr
  by_cases h : d.name.isEmpty = true
  · rw [if_pos h]
    exact toString_int32_ne_empty number
  · rw [if_neg h]
    intro hname
    exact h (String.isEmpty_iff.mpr hname)

/-- The name by which a case is known is made of its group and its name, which is not empty. -/
theorem named_of_mem_casesOf {group : String} {number : Int32} {drafts : List Draft} {c : Case}
    (h : c ∈ casesOf group number drafts) : c.fullName = c.group ++ "/" ++ c.name ∧ c.name ≠ "" := by
  induction drafts generalizing number with
  | nil => cases h
  | cons d drafts ih =>
    rcases List.mem_cons.mp h with rfl | h
    · exact ⟨rfl, d.nameOr_ne_empty number⟩
    · exact ih h

section Rejection

variable {seen : List String} {cases : List Case}

/-- No case is rejected if none has a fault and their names are different and unseen. -/
theorem firstRejection?_eq_none_iff :
    firstRejection? seen cases = none ↔ (∀ c ∈ cases, c.fault? = none) ∧
      (cases.map Case.fullName).Nodup ∧ ∀ c ∈ cases, c.fullName ∉ seen := by
  induction cases generalizing seen with
  | nil => simp [firstRejection?]
  | cons c cases ih =>
    cases hrejection : c.rejection? seen with
    | some e =>
      rw [firstRejection?_cons_of_rejected hrejection]
      have hrejected : ¬ (c.fault? = none ∧ c.fullName ∉ seen) := by
        rw [← rejection?_eq_none_iff, hrejection]
        simp
      constructor
      · intro h
        cases h
      · rintro ⟨hfaults, -, hunseen⟩
        exact absurd ⟨hfaults c (by simp), hunseen c (by simp)⟩ hrejected
    | none =>
      obtain ⟨hfault, hseen⟩ := rejection?_eq_none_iff.mp hrejection
      rw [firstRejection?_cons_of_passed hrejection, ih]
      -- The names behind must avoid that of the first case, which is what makes them all different.
      have hnames : (∀ c' ∈ cases, c'.fullName ∉ c.fullName :: seen) ↔
          c.fullName ∉ cases.map Case.fullName ∧ ∀ c' ∈ cases, c'.fullName ∉ seen := by
        grind
      rw [hnames, List.map_cons, List.nodup_cons, List.forall_mem_cons, List.forall_mem_cons]
      simp only [hfault, hseen, not_false_eq_true, true_and, and_assoc, and_left_comm]

theorem passing_eq_self (h : firstRejection? seen cases = none) : passing seen cases = cases := by
  induction cases generalizing seen with
  | nil => rfl
  | cons c cases ih =>
    cases hrejection : c.rejection? seen with
    | some e =>
      rw [firstRejection?_cons_of_rejected hrejection] at h
      cases h
    | none =>
      rw [firstRejection?_cons_of_passed hrejection] at h
      rw [passing_cons_of_passed hrejection, ih h]

end Rejection

namespace Load

/-- The load gets as far as checking cases, and none of them has a fault or the name of another. -/
structure Consistent (l : Load) : Prop where
  read : ∃ group drafts, l.reading = .ok (group, drafts)
  faultless : ∀ case ∈ l.cases, case.fault? = none
  distinct : (l.cases.map Case.fullName).Nodup

variable {l : Load} {seen : List String}

theorem named_of_mem_cases {case : Case} (h : case ∈ l.cases) :
    case.fullName = case.group ++ "/" ++ case.name ∧ case.name ≠ "" := by
  unfold Load.cases at h
  split at h
  · cases h
  · exact named_of_mem_casesOf h

/-- Whether a load succeeds depends on the names seen only in that its own must not be among them. -/
theorem rejection?_eq_none_iff :
    l.rejection? seen = none ↔ l.Consistent ∧ ∀ case ∈ l.cases, case.fullName ∉ seen := by
  cases hreading : l.reading with
  | error e =>
    have hunread : ¬ l.Consistent := by
      rintro ⟨⟨group, drafts, hread⟩, -, -⟩
      rw [hreading] at hread
      cases hread
    simp [rejection?, hreading, hunread]
  | ok read =>
    have hread : ∃ group drafts, l.reading = .ok (group, drafts) := ⟨read.1, read.2, hreading⟩
    simp only [rejection?, hreading, Option.map_eq_none_iff, firstRejection?_eq_none_iff]
    constructor
    · rintro ⟨hfaultless, hdistinct, hunseen⟩
      exact ⟨⟨hread, hfaultless, hdistinct⟩, hunseen⟩
    · rintro ⟨⟨-, hfaultless, hdistinct⟩, hunseen⟩
      exact ⟨hfaultless, hdistinct, hunseen⟩

end Load

namespace Collection

variable {c : Collection} {l l' : Load}

/-- The cases kept have different names, all of them seen, each made of a group, a slash and a name
that is not empty; and a match is spoken of exactly where the pattern is to be accepted. -/
structure Sound (c : Collection) : Prop where
  distinct : (c.cases.map Case.fullName).Nodup
  named : ∀ case ∈ c.cases, case.fullName = case.group ++ "/" ++ case.name ∧ case.name ≠ ""
  consistent : ∀ case ∈ c.cases, case.expected?.isSome = case.compiles
  seen : ∀ case ∈ c.cases, case.fullName ∈ c.seen

theorem sound_new : ({} : Collection).Sound :=
  ⟨List.nodup_nil, by simp, by simp, by simp⟩

theorem apply_eq_ok_iff :
    (c.apply l).2 = .ok () ↔ l.Consistent ∧ ∀ case ∈ l.cases, case.fullName ∉ c.seen := by
  rw [← Load.rejection?_eq_none_iff, apply_eq]
  cases l.rejection? c.seen <;> simp

theorem apply_of_ok (h : (c.apply l).2 = .ok ()) :
    (c.apply l).1 = ⟨c.cases ++ l.cases, (l.cases.map Case.fullName).reverse ++ c.seen⟩ := by
  obtain ⟨hconsistent, hunseen⟩ := apply_eq_ok_iff.mp h
  have hpassing : passing c.seen l.cases = l.cases :=
    passing_eq_self (firstRejection?_eq_none_iff.mpr
      ⟨hconsistent.faultless, hconsistent.distinct, hunseen⟩)
  rw [apply_eq, Load.rejection?_eq_none_iff.mpr ⟨hconsistent, hunseen⟩, passedNames, hpassing]

theorem mem_seen_apply_of_ok (h : (c.apply l).2 = .ok ()) {name : String} :
    name ∈ (c.apply l).1.seen ↔ name ∈ l.cases.map Case.fullName ∨ name ∈ c.seen := by
  rw [apply_of_ok h, List.mem_append, List.mem_reverse]

/-- A load that fails adds names to those seen and changes nothing else. -/
theorem apply_of_error {e : LoadError} (h : (c.apply l).2 = .error e) :
    (c.apply l).1.cases = c.cases ∧ ∀ name ∈ c.seen, name ∈ (c.apply l).1.seen := by
  rw [apply_eq] at h ⊢
  cases hrejection : l.rejection? c.seen with
  | some e' => exact ⟨rfl, fun name hname => List.mem_append_right _ hname⟩
  | none =>
    rw [hrejection] at h
    cases h

theorem Sound.apply (h : c.Sound) (l : Load) : (c.apply l).1.Sound := by
  cases hresult : (c.apply l).2 with
  | error e =>
    obtain ⟨hcases, hseen⟩ := apply_of_error hresult
    refine ⟨?_, ?_, ?_, ?_⟩ <;> rw [hcases]
    · exact h.distinct
    · exact h.named
    · exact h.consistent
    · exact fun case hcase => hseen _ (h.seen case hcase)
  | ok _ =>
    obtain ⟨hconsistent, hunseen⟩ := apply_eq_ok_iff.mp hresult
    rw [apply_of_ok hresult]
    refine ⟨?_, ?_, ?_, ?_⟩
    · rw [List.map_append]
      refine List.nodup_append.mpr ⟨h.distinct, hconsistent.distinct, ?_⟩
      intro name hkept name' hnew hname
      obtain ⟨kept, hmem, rfl⟩ := List.mem_map.mp hkept
      obtain ⟨case, hcase, rfl⟩ := List.mem_map.mp hnew
      exact hunseen case hcase (hname ▸ h.seen kept hmem)
    · intro case hcase
      rcases List.mem_append.mp hcase with hkept | hnew
      · exact h.named case hkept
      · exact Load.named_of_mem_cases hnew
    · intro case hcase
      rcases List.mem_append.mp hcase with hkept | hnew
      · exact h.consistent case hkept
      · exact Case.fault?_eq_none_iff.mp (hconsistent.faultless case hnew)
    · intro case hcase
      rcases List.mem_append.mp hcase with hkept | hnew
      · exact List.mem_append_right _ (h.seen case hkept)
      · exact List.mem_append_left _ (List.mem_reverse.mpr (List.mem_map_of_mem hnew))

theorem Sound.applyAll (h : c.Sound) (loads : List Load) : (c.applyAll loads).Sound := by
  induction loads generalizing c with
  | nil => exact h
  | cons l loads ih => exact ih (h.apply l)

/-- Of two loads that succeed one after the other, the second would have succeeded first. -/
theorem apply_eq_ok_of_later (h : (c.apply l).2 = .ok ()) (h' : ((c.apply l).1.apply l').2 = .ok ()) :
    (c.apply l').2 = .ok () := by
  obtain ⟨hconsistent, hunseen⟩ := apply_eq_ok_iff.mp h'
  refine apply_eq_ok_iff.mpr ⟨hconsistent, fun case hcase hseen => ?_⟩
  exact hunseen case hcase ((mem_seen_apply_of_ok h).mpr (.inr hseen))

/-- Of two loads that succeed one after the other, the first would have succeeded second. -/
theorem apply_eq_ok_of_earlier (h : (c.apply l).2 = .ok ())
    (h' : ((c.apply l).1.apply l').2 = .ok ()) : ((c.apply l').1.apply l).2 = .ok () := by
  have hfirst := apply_eq_ok_of_later h h'
  obtain ⟨hconsistent, hunseen⟩ := apply_eq_ok_iff.mp h
  obtain ⟨-, hunseen'⟩ := apply_eq_ok_iff.mp h'
  refine apply_eq_ok_iff.mpr ⟨hconsistent, fun case hcase hseen => ?_⟩
  rcases (mem_seen_apply_of_ok hfirst).mp hseen with hname | hseen
  · obtain ⟨case', hcase', hname'⟩ := List.mem_map.mp hname
    refine hunseen' case' hcase' ((mem_seen_apply_of_ok h).mpr (.inl ?_))
    exact hname' ▸ List.mem_map_of_mem hcase
  · exact hunseen case hcase hseen

theorem cases_apply_comm (h : (c.apply l).2 = .ok ()) (h' : ((c.apply l).1.apply l').2 = .ok ()) :
    ((c.apply l').1.apply l).1.cases.Perm ((c.apply l).1.apply l').1.cases := by
  rw [apply_of_ok (apply_eq_ok_of_earlier h h'), apply_of_ok (apply_eq_ok_of_later h h'),
    apply_of_ok h', apply_of_ok h]
  simp only [List.append_assoc]
  exact List.Perm.append_left c.cases List.perm_append_comm

/-- After any loads the collection is sound; another load adds its cases behind those kept, or none
if it fails; and two that succeed one after the other succeed the other way round and keep the same
cases. -/
theorem loads_keep_sound_and_commute (loads : List Load) (l l' : Load) :
    let c := ({} : Collection).applyAll loads
    let both := ((c.apply l).1.apply l').1
    let swapped := ((c.apply l').1.apply l).1
    c.Sound ∧
      (∀ e, (c.apply l).2 = .error e → (c.apply l).1.cases = c.cases) ∧
      ((c.apply l).2 = .ok () → (c.apply l).1.cases = c.cases ++ l.cases) ∧
      ((c.apply l).2 = .ok () → ((c.apply l).1.apply l').2 = .ok () →
        (c.apply l').2 = .ok () ∧ ((c.apply l').1.apply l).2 = .ok () ∧
          swapped.cases.Perm both.cases) := by
  intro c both swapped
  refine ⟨sound_new.applyAll loads, ?_, ?_, ?_⟩
  · intro e herror
    exact (apply_of_error herror).1
  · intro hok
    rw [apply_of_ok hok]
  · intro h h'
    exact ⟨apply_eq_ok_of_later h h', apply_eq_ok_of_earlier h h', cases_apply_comm h h'⟩

/-- A document for a group with one test, of the given name. -/
def oneTest (group name : String) : Load :=
  .document group (.holding (some (.list
    [.table [("name", .text name), ("pattern", .text "x"), ("match", .flag true)]])))

/-- A load fails over a repeated name and leaves it seen. Of two loads behind it, the first has a test
without a name, which is numbered the same whether it is loaded first or second. -/
theorem loads_keep_sound_and_commute_numbered :
    let repeated : Load := .document "g" (.holding (some (.list
      [.table [("name", .text "a"), ("pattern", .text "x"), ("match", .flag true)],
        .table [("name", .text "a"), ("pattern", .text "y"), ("match", .flag true)]])))
    let c := ({} : Collection).applyAll [repeated]
    let both := ((c.apply (oneTest "g" "")).1.apply (oneTest "g" "b")).1
    let swapped := ((c.apply (oneTest "g" "b")).1.apply (oneTest "g" "")).1
    (c.apply repeated).2 = .error (.duplicate "g/a") ∧ (c.apply repeated).1.cases = c.cases ∧
      c.cases = [] ∧ c.seen = ["g/a"] ∧
      (c.apply (oneTest "g" "")).2 = .ok () ∧
      ((c.apply (oneTest "g" "")).1.apply (oneTest "g" "b")).2 = .ok () ∧
      ((c.apply (oneTest "g" "b")).1.apply (oneTest "g" "")).2 = .ok () ∧
      both.cases.map Case.fullName = ["g/1", "g/b"] ∧ swapped.cases.Perm both.cases := by
  intro repeated c both swapped
  have hfailed : (c.apply repeated).2 = .error (.duplicate "g/a") := by rfl
  have hfirst : (c.apply (oneTest "g" "")).2 = .ok () := by rfl
  have hsecond : ((c.apply (oneTest "g" "")).1.apply (oneTest "g" "b")).2 = .ok () := by rfl
  obtain ⟨-, hkept, -, -⟩ := loads_keep_sound_and_commute [repeated] repeated repeated
  obtain ⟨-, -, -, hcommute⟩ :=
    loads_keep_sound_and_commute [repeated] (oneTest "g" "") (oneTest "g" "b")
  obtain ⟨-, hswapped, hperm⟩ := hcommute hfirst hsecond
  exact ⟨hfailed, hkept _ hfailed, rfl, rfl, hfirst, hsecond, hswapped, rfl, hperm⟩

end Collection

end StarMatch.Suite
