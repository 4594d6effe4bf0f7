import StarMatch.Proofs.Suite.Kept
import StarMatch.Proofs.Suite.Numbers

/-!
# Which draft a load is rejected for

A draft without a name is numbered by the drafts without a name that stand before it, so its full name
is fixed by its place. It fits there if it does not contradict itself and its full name is new, both to
the collection and among the drafts before it. A document is loaded exactly if each of its drafts fits,
and the first that does not is what it is rejected for, as long as there are numbers for all its drafts
without a name.
-/

namespace StarMatch.Suite

namespace Draft

/-- The full name of a draft at a place in a document. -/
def fullNameAt (d : Draft) (group : String) (drafts : List Draft) (place : Nat) : String :=
  group ++ "/" ++ d.nameAt drafts place

/-- A draft can be kept at its place: it speaks of a match exactly if its pattern is to be accepted, and
its full name is neither among those seen nor that of a draft before it. -/
structure Fits (d : Draft) (seen : List String) (group : String) (drafts : List Draft) (place : Nat) :
    Prop where
  consistent : d.expected?.isSome = d.compiles
  unseen : d.fullNameAt group drafts place ∉ seen
  unused : ∀ earlier < place, ∀ d', drafts[earlier]? = some d' →
    d'.fullNameAt group drafts earlier ≠ d.fullNameAt group drafts place

end Draft

section Cases

variable {group : String} {place : Nat} {seen : List String} {drafts : List Draft}
  {d : Draft} {c : Case} {cases : List Case} {e : LoadError}

/-- The case at a place is the draft there under the name of its place. -/
theorem getElem?_casesOf_one (hfew : drafts.countP (·.name = "") < 2 ^ 31 - 1) (place : Nat) :
    (casesOf group 1 drafts)[place]? =
      drafts[place]?.map fun d => d.toCase group (d.nameAt drafts place) := by
  simp only [getElem?_casesOf, Draft.nameFrom_one _ place hfew]

theorem casesOf_eq_mapIdx (hfew : drafts.countP (·.name = "") < 2 ^ 31 - 1) :
    casesOf group 1 drafts =
      drafts.mapIdx fun place d => d.toCase group (d.nameAt drafts place) := by
  apply List.ext_getElem?
  intro place
  rw [getElem?_casesOf_one hfew, List.getElem?_mapIdx]

theorem rejection?_behind_cons (c' c : Case) (cases : List Case) (place : Nat) (seen : List String) :
    c'.rejection? (((c :: cases).take (place + 1)).map Case.fullName ++ seen) =
      c'.rejection? ((cases.take place).map Case.fullName ++ c.fullName :: seen) := by
  apply rejection?_congr
  simp only [List.take_succ_cons, List.map_cons, List.cons_append, List.mem_cons, List.mem_append]
  exact or_left_comm

/-- No case is rejected if none is rejected where the names before it have been seen as well. -/
theorem firstRejection?_eq_none_iff_forall :
    firstRejection? seen cases = none ↔ ∀ (place : Nat) (c : Case), cases[place]? = some c →
      c.rejection? ((cases.take place).map Case.fullName ++ seen) = none := by
  induction cases generalizing seen with
  | nil => simp [firstRejection?]
  | cons c cases ih =>
    cases hrejection : c.rejection? seen with
    | some e =>
      rw [firstRejection?_cons_of_rejected hrejection]
      constructor
      · intro h
        cases h
      · intro h
        exact absurd (hrejection.symm.trans (h 0 c rfl)) (by simp)
    | none =>
      rw [firstRejection?_cons_of_passed hrejection, ih]
      constructor
      · intro h place c' hc'
        cases place with
        | zero =>
          obtain rfl : c = c' := Option.some.inj hc'
          exact hrejection
        | succ place =>
          rw [rejection?_behind_cons]
          exact h place c' hc'
      · intro h place c' hc'
        rw [← rejection?_behind_cons]
        exact h (place + 1) c' hc'

/-- The case that is rejected first is at a place before which none is. -/
theorem exists_place_of_firstRejection? (h : firstRejection? seen cases = some e) :
    ∃ (place : Nat) (c : Case), cases[place]? = some c ∧
      c.rejection? ((cases.take place).map Case.fullName ++ seen) = some e ∧
      ∀ earlier < place, ∀ c', cases[earlier]? = some c' →
        c'.rejection? ((cases.take earlier).map Case.fullName ++ seen) = none := by
  induction cases generalizing seen with
  | nil => cases h
  | cons c cases ih =>
    cases hrejection : c.rejection? seen with
    | some e' =>
      rw [firstRejection?_cons_of_rejected hrejection] at h
      exact ⟨0, c, rfl, hrejection.trans h, by simp⟩
    | none =>
      rw [firstRejection?_cons_of_passed hrejection] at h
      obtain ⟨place, c', hc', hrejected, hbefore⟩ := ih h
      refine ⟨place + 1, c', hc', ?_, ?_⟩
      · rw [rejection?_behind_cons]
        exact hrejected
      · intro earlier hlt c'' hc''
        cases earlier with
        | zero =>
          obtain rfl : c = c'' := Option.some.inj hc''
          exact hrejection
        | succ earlier =>
          rw [rejection?_behind_cons]
          exact hbefore earlier (Nat.lt_of_succ_lt_succ hlt) c'' hc''

/-- A full name is used before a place if a draft before it has the name. -/
theorem mem_fullNames_take_iff (hfew : drafts.countP (·.name = "") < 2 ^ 31 - 1) {name : String} :
    name ∈ ((casesOf group 1 drafts).take place).map Case.fullName ↔
      ∃ earlier < place, ∃ d', drafts[earlier]? = some d' ∧
        d'.fullNameAt group drafts earlier = name := by
  rw [List.mem_map]
  constructor
  · rintro ⟨c, hc, rfl⟩
    obtain ⟨earlier, hc⟩ := List.mem_iff_getElem?.mp hc
    rw [List.getElem?_take] at hc
    split at hc
    · next hlt =>
      rw [getElem?_casesOf_one hfew] at hc
      obtain ⟨d', hd', rfl⟩ := Option.map_eq_some_iff.mp hc
      exact ⟨earlier, hlt, d', hd', rfl⟩
    · cases hc
  · rintro ⟨earlier, hlt, d', hd', rfl⟩
    have hc : ((casesOf group 1 drafts).take place)[earlier]? =
        some (d'.toCase group (d'.nameAt drafts earlier)) := by
      rw [List.getElem?_take, if_pos hlt, getElem?_casesOf_one hfew, hd']
      rfl
    exact ⟨_, List.mem_of_getElem? hc, rfl⟩

/-- A draft fits exactly if the case that it becomes is not rejected behind those before it. -/
theorem fits_iff_rejection?_eq_none (hfew : drafts.countP (·.name = "") < 2 ^ 31 - 1) :
    d.Fits seen group drafts place ↔
      (d.toCase group (d.nameAt drafts place)).rejection?
        (((casesOf group 1 drafts).take place).map Case.fullName ++ seen) = none := by
  rw [rejection?_eq_none_iff, Case.fault?_eq_none_iff, List.mem_append, mem_fullNames_take_iff hfew]
  constructor
  · rintro ⟨hconsistent, hunseen, hunused⟩
    refine ⟨hconsistent, ?_⟩
    rintro (⟨earlier, hlt, d', hd', hname⟩ | hseen)
    · exact hunused earlier hlt d' hd' hname
    · exact hunseen hseen
  · rintro ⟨hconsistent, hfree⟩
    refine ⟨hconsistent, fun hseen => hfree (.inr hseen), ?_⟩
    intro earlier hlt d' hd' hname
    exact hfree (.inl ⟨earlier, hlt, d', hd', hname⟩)

theorem firstRejection?_casesOf_eq_none_iff (hfew : drafts.countP (·.name = "") < 2 ^ 31 - 1) :
    firstRejection? seen (casesOf group 1 drafts) = none ↔
      ∀ (place : Nat) (d : Draft), drafts[place]? = some d → d.Fits seen group drafts place := by
  rw [firstRejection?_eq_none_iff_forall]
  constructor
  · intro h place d hd
    rw [fits_iff_rejection?_eq_none hfew]
    exact h place _ (by rw [getElem?_casesOf_one hfew, hd]; rfl)
  · intro h place c hc
    rw [getElem?_casesOf_one hfew] at hc
    obtain ⟨d, hd, rfl⟩ := Option.map_eq_some_iff.mp hc
    exact (fits_iff_rejection?_eq_none hfew).mp (h place d hd)

theorem Case.fault?_of_inconsistent (h : c.expected?.isSome ≠ c.compiles) :
    c.fault? = some (if c.compiles then .missingMatch else .needlessMatch) := by
  unfold Case.fault?
  cases hcompiles : c.compiles <;> cases hexpected : c.expected? <;> simp_all

/-- A draft that contradicts itself is rejected for that, and for its name only otherwise. -/
theorem eq_of_rejection?_toCase
    (h : (d.toCase group (d.nameAt drafts place)).rejection? seen = some e) :
    (d.expected?.isSome ≠ d.compiles →
      e = .invalid (d.fullNameAt group drafts place)
        (if d.compiles then .missingMatch else .needlessMatch)) ∧
      (d.expected?.isSome = d.compiles → e = .duplicate (d.fullNameAt group drafts place)) := by
  rw [Case.rejection?] at h
  constructor
  · intro hinconsistent
    rw [Case.fault?_of_inconsistent hinconsistent] at h
    exact (Option.some.inj h).symm
  · intro hconsistent
    rw [Case.fault?_eq_none_iff.mpr hconsistent] at h
    dsimp only at h
    split at h
    · exact (Option.some.inj h).symm
    · cases h

end Cases

namespace Collection

/-- A document is loaded exactly if each of its drafts fits at its place. Its cases are then kept in
their order, each under the name of its place and with its escapes resolved if it asks for that. If it is
rejected, no case is kept, and the error is about the first draft that does not fit: that it contradicts
itself, or else that its full name is taken. All this goes for documents with fewer drafts without a
name than there are numbers in 32 bits from one upwards. -/
theorem load_keeps_all_or_blames_first (c : Collection) (group : String) (document : Document)
    (drafts : List Draft) (h : document.drafts? = some drafts)
    (hfew : drafts.countP (·.name = "") < 2 ^ 31 - 1) :
    let loaded := c.load group document
    (loaded.2 = .ok () ↔
      ∀ (place : Nat) d, drafts[place]? = some d → d.Fits c.seen group drafts place) ∧
    (loaded.2 = .ok () → loaded.1.cases = c.cases ++ drafts.mapIdx fun place d =>
      { group := group
        name := d.nameAt drafts place
        fullName := d.fullNameAt group drafts place
        pattern := if d.unescape then Text.unescape d.pattern else d.pattern
        input := if d.unescape then Text.unescape d.input else d.input
        expected? := d.expected?
        compiles := d.compiles }) ∧
    ∀ e, loaded.2 = .error e → loaded.1.cases = c.cases ∧
      ∃ (place : Nat) (d : Draft), drafts[place]? = some d ∧ ¬ d.Fits c.seen group drafts place ∧
        (∀ earlier < place, ∀ d', drafts[earlier]? = some d' →
          d'.Fits c.seen group drafts earlier) ∧
        (d.expected?.isSome ≠ d.compiles →
          e = .invalid (d.fullNameAt group drafts place)
            (if d.compiles then .missingMatch else .needlessMatch)) ∧
        (d.expected?.isSome = d.compiles → e = .duplicate (d.fullNameAt group drafts place)) := by
  intro loaded
  have hloaded : loaded = c.loadDrafts group drafts := by
    simp only [loaded, load, h]
  rw [hloaded, loadDrafts_eq, ← firstRejection?_casesOf_eq_none_iff hfew]
  cases hrejection : firstRejection? c.seen (casesOf group 1 drafts) with
  | none =>
    refine ⟨by simp, ?_, ?_⟩
    · intro _
      rw [casesOf_eq_mapIdx hfew]
      rfl
    · intro e he
      cases he
  | some e =>
    refine ⟨by simp, ?_, ?_⟩
    · intro hok
      cases hok
    · rintro _ ⟨⟩
      obtain ⟨place, case, hcase, hrejected, hbefore⟩ := exists_place_of_firstRejection? hrejection
      rw [getElem?_casesOf_one hfew] at hcase
      obtain ⟨d, hd, rfl⟩ := Option.map_eq_some_iff.mp hcase
      refine ⟨rfl, place, d, hd, ?_, ?_, eq_of_rejection?_toCase hrejected⟩
      · rw [fits_iff_rejection?_eq_none hfew]
        intro hpassed
        cases hrejected.symm.trans hpassed
      · intro earlier hlt d' hd'
        rw [fits_iff_rejection?_eq_none hfew]
        exact hbefore earlier hlt _ (by rw [getElem?_casesOf_one hfew, hd']; rfl)

/-- The third draft has no name and is the second of these, and the first has the name that this gives
it. The fourth contradicts itself, but the document has been rejected before. -/
theorem load_keeps_all_or_blames_first_number_taken :
    let named (name : String) : List (String × Value) :=
      [("name", .text name), ("pattern", .text "x"), ("match", .flag true)]
    let document : Document := .holding (some (.list [.table (named "2"), .table (named ""),
      .table (named ""), .table [("name", .text "b"), ("pattern", .text "x")]]))
    let draft (name : String) : Draft := { name, pattern := [120], expected? := some true }
    let drafts := [draft "2", draft "", draft "", { name := "b", pattern := [120] }]
    let c : Collection := { seen := ["g/3"] }
    document.drafts? = some drafts ∧ (c.load "g" document).2 = .error (.duplicate "g/2") ∧
      (c.load "g" document).1.cases = [] ∧
      ∃ (place : Nat) (d : Draft), drafts[place]? = some d ∧ ¬ d.Fits c.seen "g" drafts place ∧
        "g/2" = d.fullNameAt "g" drafts place := by
  intro named document draft drafts c
  have hdrafts : document.drafts? = some drafts := by rfl
  have hrejected : (c.load "g" document).2 = .error (.duplicate "g/2") := by rfl
  have hfew : drafts.countP (·.name = "") < 2 ^ 31 - 1 := by decide
  obtain ⟨-, -, herror⟩ := load_keeps_all_or_blames_first c "g" document drafts hdrafts hfew
  obtain ⟨hcases, place, d, hd, hmisfit, -, hinvalid, hduplicate⟩ := herror _ hrejected
  refine ⟨hdrafts, hrejected, hcases, place, d, hd, hmisfit, ?_⟩
  by_cases hconsistent : d.expected?.isSome = d.compiles
  · exact LoadError.duplicate.inj (hduplicate hconsistent)
  · cases hinvalid hconsistent

section Replicas

variable {d : Draft} {count place : Nat}

/-- A document that has the same test many times has its draft as many times. -/
theorem drafts?_replicate {test : Value} (h : Draft.ofValue? test = some d) (count : Nat) :
    (Document.holding (some (.list (List.replicate count test)))).drafts? =
      some (List.replicate count d) := by
  change (List.replicate count test).mapM Draft.ofValue? = _
  induction count with
  | zero => rfl
  | succ count ih =>
    rw [List.replicate_succ, List.mapM_cons, h, ih]
    rfl

theorem unnamedBefore_replicate (hname : d.name = "") (hplace : place ≤ count) :
    Draft.unnamedBefore (List.replicate count d) place = place := by
  rw [Draft.unnamedBefore, List.take_replicate, List.countP_replicate, if_pos (by simpa using hname),
    min_eq_left hplace]

/-- Drafts without a name that are consistent all fit, since every one of them has another number. -/
theorem fits_replicate (hname : d.name = "") (hconsistent : d.expected?.isSome = d.compiles)
    (group : String) (hplace : place < count) :
    d.Fits [] group (List.replicate count d) place := by
  refine ⟨hconsistent, List.not_mem_nil, ?_⟩
  intro earlier hlt d' hd' hsame
  obtain rfl : d' = d := (List.mem_replicate.mp (List.mem_of_getElem? hd')).2
  have hnumbers := (String.append_right_inj (group ++ "/")).mp hsame
  rw [Draft.nameAt, Draft.nameAt, if_pos hname, if_pos hname,
    unnamedBefore_replicate hname (hlt.trans hplace).le, unnamedBefore_replicate hname hplace.le]
    at hnumbers
  have := Nat.repr_injective hnumbers
  omega

theorem getElem?_casesOf_replicate (hname : d.name = "") (group : String) (hplace : place < count) :
    (casesOf group 1 (List.replicate count d))[place]? =
      some (d.toCase group (toString (1 + Int32.ofNat place))) := by
  rw [getElem?_casesOf, List.getElem?_replicate, if_pos hplace, Option.map_some, Draft.nameFrom,
    if_pos hname, unnamedBefore_replicate hname hplace.le]

/-- The numbers of drafts without a name do not wrap around to one that has been used. -/
theorem nodup_fullNames_replicate (hname : d.name = "") (group : String) (hcount : count ≤ 2 ^ 31) :
    ((casesOf group 1 (List.replicate count d)).map Case.fullName).Nodup := by
  rw [List.nodup_iff_getElem?_ne_getElem?]
  intro earlier place hlt hplace hsame
  rw [List.length_map, length_casesOf, List.length_replicate] at hplace
  rw [List.getElem?_map, List.getElem?_map, getElem?_casesOf_replicate hname group hplace,
    getElem?_casesOf_replicate hname group (hlt.trans hplace)] at hsame
  have hnumbers := (String.append_right_inj (group ++ "/")).mp (Option.some.inj hsame)
  have hints := congrArg Int32.toInt
    ((Int32.add_right_inj 1).mp (toString_int32_inj.mp hnumbers))
  rw [Int32.toInt_ofNat_of_lt (by omega), Int32.toInt_ofNat_of_lt (by omega)] at hints
  omega

/-- A document of one consistent test without a name, written no more often than there are numbers, is
loaded. -/
theorem load_replicate {test : Value} (htest : Draft.ofValue? test = some d) (hname : d.name = "")
    (hconsistent : d.expected?.isSome = d.compiles) (group : String) (hcount : count ≤ 2 ^ 31) :
    ({} : Collection).load group (.holding (some (.list (List.replicate count test)))) =
      (⟨casesOf group 1 (List.replicate count d),
        ((casesOf group 1 (List.replicate count d)).map Case.fullName).reverse⟩, .ok ()) := by
  have hpassed : firstRejection? [] (casesOf group 1 (List.replicate count d)) = none := by
    refine firstRejection?_eq_none_iff.mpr
      ⟨?_, nodup_fullNames_replicate hname group hcount, fun _ _ => List.not_mem_nil⟩
    intro c hc
    obtain ⟨place, hc⟩ := List.mem_iff_getElem?.mp hc
    have hplace := (List.getElem?_eq_some_iff.mp hc).1
    rw [length_casesOf, List.length_replicate] at hplace
    rw [getElem?_casesOf_replicate hname group hplace] at hc
    obtain rfl := Option.some.inj hc
    exact Case.fault?_eq_none_iff.mpr hconsistent
  rw [load, drafts?_replicate htest]
  dsimp only
  rw [loadDrafts_eq, hpassed, passing_eq_self hpassed]
  simp

end Replicas

/-- A document may have too many tests without a name. All drafts fit at their places, and all of them
are kept, but the last number is not the count of the drafts. -/
theorem load_counts_past_greatest_number :
    let test : Value := .table [("pattern", .text "x"), ("match", .flag true)]
    let document : Document := .holding (some (.list (List.replicate (2 ^ 31) test)))
    let draft : Draft := { pattern := [120], expected? := some true }
    let drafts := List.replicate (2 ^ 31) draft
    let loaded := ({} : Collection).load "g" document
    document.drafts? = some drafts ∧
      (∀ (place : Nat) d, drafts[place]? = some d → d.Fits [] "g" drafts place) ∧
      loaded.2 = .ok () ∧
      draft.nameAt drafts (2 ^ 31 - 1) = "2147483648" ∧
      loaded.1.cases[2 ^ 31 - 1]?.map Case.name = some "-2147483648" := by
  intro test document draft drafts loaded
  have htest : Draft.ofValue? test = some draft := by rfl
  have hname : draft.name = "" := rfl
  have hconsistent : draft.expected?.isSome = draft.compiles := rfl
  have hlast : 2 ^ 31 - 1 < 2 ^ 31 := by decide
  have hloaded : loaded = _ := load_replicate htest hname hconsistent "g" (le_refl (2 ^ 31))
  refine ⟨drafts?_replicate htest _, ?_, ?_, ?_, ?_⟩
  · intro place d hd
    obtain ⟨hplace, hd⟩ := List.getElem?_eq_some_iff.mp hd
    rw [List.getElem_replicate] at hd
    rw [List.length_replicate] at hplace
    exact hd ▸ fits_replicate hname hconsistent "g" hplace
  · rw [hloaded]
  · rw [Draft.nameAt, if_pos hname, unnamedBefore_replicate hname hlast.le]
    decide
  · rw [hloaded]
    dsimp only
    rw [getElem?_casesOf_replicate hname "g" hlast]
    rfl

end Collection

end StarMatch.Suite
