import StarMatch.Proofs.Search.Evaluation
import StarMatch.Proofs.Search.Filling
import StarMatch.Proofs.Search.Room

/-!
# Both engines decide the same language

The answer to a search is fixed by the pattern, the limit and the haystack: the search is refused, or
it says whether the pattern matches. Both engines give this answer, whatever an earlier search has
left in their scratch space, unless there is no room for the table; then both of them stop their caller.
-/

namespace StarMatch

universe u v

variable {σ : Type u} [BEq σ] {haystack : Haystack σ}

open Classical in
/-- The answer to a search: a refusal, or whether the pattern matches the whole haystack. -/
noncomputable def Pattern.answer (p : Pattern σ) (limit : Option Nat) (haystack : Haystack σ) :
    Except TableTooBig Bool :=
  (checkedCellCount haystack.length p.length limit).map fun _ => decide (p.Matches haystack.toList)

theorem Pattern.answer_of_refused {p : Pattern σ} {limit : Option Nat} {refusal : TableTooBig}
    (h : checkedCellCount haystack.length p.length limit = .error refusal) :
    p.answer limit haystack = .error refusal := by
  rw [answer, h]
  rfl

theorem Pattern.answer_of_admitted {p : Pattern σ} {limit : Option Nat} {cells : Nat}
    (h : checkedCellCount haystack.length p.length limit = .ok cells) {verdict : Bool}
    (hverdict : verdict = true ↔ p.Matches haystack.toList) :
    p.answer limit haystack = .ok verdict := by
  rw [answer, h]
  exact congrArg Except.ok (Bool.eq_iff_iff.mpr (by simp [hverdict]))

/-- A search that is not refused says whether the pattern matches. -/
theorem Pattern.eq_true_iff_matches_of_answer {p : Pattern σ} {limit : Option Nat} {verdict : Bool}
    (h : p.answer limit haystack = .ok verdict) :
    verdict = true ↔ p.Matches haystack.toList := by
  rw [answer] at h
  cases hchecked : checkedCellCount haystack.length p.length limit with
  | error refusal => rw [hchecked] at h; cases h
  | ok cells =>
    rw [hchecked] at h
    obtain rfl := Except.ok.inj h
    simp

/-- An answer that is a refusal comes from the limit. -/
theorem Pattern.refused_of_answer {p : Pattern σ} {limit : Option Nat} {refusal : TableTooBig}
    (h : p.answer limit haystack = .error refusal) :
    checkedCellCount haystack.length p.length limit = .error refusal := by
  rw [answer] at h
  cases hchecked : checkedCellCount haystack.length p.length limit with
  | error refusal' => rw [hchecked] at h; exact congrArg Except.error (Except.error.inj h)
  | ok cells => rw [hchecked] at h; cases h

/-- What a caller gets of a search: the stop for want of room, or the answer. -/
noncomputable def Pattern.answerInRoom (p : Pattern σ) (limit : Option Nat) (haystack : Haystack σ) :
    Except Panic (Except TableTooBig Bool) :=
  match roomPanic? haystack.length p.length limit with
  | some panic => .error panic
  | none => .ok (p.answer limit haystack)

theorem Pattern.answerInRoom_of_room {p : Pattern σ} {limit : Option Nat}
    (h : roomPanic? haystack.length p.length limit = none) :
    p.answerInRoom limit haystack = .ok (p.answer limit haystack) := by
  rw [answerInRoom, h]

theorem Pattern.answerInRoom_eq_error_iff {p : Pattern σ} {limit : Option Nat} {panic : Panic} :
    p.answerInRoom limit haystack = .error panic ↔
      roomPanic? haystack.length p.length limit = some panic := by
  rw [answerInRoom]
  cases roomPanic? haystack.length p.length limit <;> simp

/-- Without a limit, a caller gets to know of a match exactly if there is one and there is room. -/
theorem Pattern.answerInRoom_none_eq_true_iff {p : Pattern σ} :
    p.answerInRoom none haystack = .ok (.ok true) ↔
      p.Matches haystack.toList ∧ (haystack.length + 1) * (p.length + 1) ≤ roomMax := by
  classical
  by_cases hroom : (haystack.length + 1) * (p.length + 1) ≤ roomMax
  · have hanswer : p.answer none haystack = .ok (decide (p.Matches haystack.toList)) :=
      answer_of_admitted rfl decide_eq_true_iff
    rw [answerInRoom_of_room (roomPanic?_of_le hroom), hanswer]
    simp [hroom]
  · have hstop : p.answerInRoom none haystack = .error (.text "capacity overflow") :=
      answerInRoom_eq_error_iff.mpr (roomPanic?_of_lt nofun (Nat.lt_of_not_le hroom))
    rw [hstop]
    simp [hroom]

/-- A search gives what the caller gets, if it gives the answer to every search that is admitted. A refused
search has its answer however many cells there are. -/
theorem Pattern.map_verdict_searchInRoom {κ : Type v} {p : Pattern σ} {limit : Option Nat}
    (search : Haystack σ → Outcome κ)
    (hrefused : ∀ refusal, checkedCellCount haystack.length p.length limit = .error refusal →
      (search haystack).verdict = .error refusal)
    (hadmitted : (haystack.length + 1) * (p.length + 1) ≤ wordMax →
      (search haystack).verdict = p.answer limit haystack) :
    (searchInRoom search p.length limit haystack).map Outcome.verdict =
      p.answerInRoom limit haystack := by
  cases hroom : roomPanic? haystack.length p.length limit with
  | some panic =>
    rw [searchInRoom_of_panic search hroom, answerInRoom, hroom]
    rfl
  | none =>
    rw [searchInRoom_of_room search hroom, answerInRoom_of_room hroom]
    refine congrArg Except.ok ?_
    cases hchecked : checkedCellCount haystack.length p.length limit with
    | error refusal => rw [hrefused refusal hchecked, answer_of_refused hchecked]
    | ok cells => exact hadmitted (cells_le_wordMax_of_room hroom hchecked)

namespace Backtracker

/-- A run has enough looks at its front to leave no state waiting. -/
theorem pending_run {b : Backtracker σ} {ready : Cache}
    (hstart : (Run.start ready).Valid b.pattern.tokens haystack) :
    (b.run haystack ready).pending = [] := by
  have hsize : ready.memo.size = (haystack.length + 1) * (b.pattern.tokens.length + 1) :=
    hstart.covers.size_eq
  have hfuel : 2 * ((haystack.length + 1) * (b.pattern.tokens.length + 1)) <
      (Run.start ready).looks haystack.length b.pattern.tokens.length + 2 * ready.memo.size := by
    rw [hsize, Run.looks, Run.start, List.length_cons]
    omega
  exact hstart.pending_finish hfuel

/-- A finished run has the right verdict for the whole haystack. -/
theorem exists_verdict_run {b : Backtracker σ} {ready : Cache}
    (hstart : (Run.start ready).Valid b.pattern.tokens haystack) :
    ∃ verdict, (b.run haystack ready).memo.verdict? ⟨0, 0⟩ = some verdict ∧
      (verdict = true ↔ b.pattern.Matches haystack.toList) :=
  (hstart.finish _).exists_root_verdict (pending_run hstart)

/-- The backtracker gives the answer to the search, whatever its cache holds. -/
theorem verdict_search (b : Backtracker σ) (cache : Cache) (haystack : Haystack σ)
    (hword : (haystack.length + 1) * (b.pattern.length + 1) ≤ wordMax) :
    (b.search cache haystack).verdict =
      b.pattern.answer b.settings.tableSizeLimit haystack := by
  rw [search]
  split
  · next refusal hrefused => exact (Pattern.answer_of_refused hrefused).symm
  · next cells hadmitted =>
    obtain rfl := (eq_cellCount_of_checked hadmitted).trans (cellCount_of_le hword)
    obtain ⟨verdict, hread, hverdict⟩ :=
      exists_verdict_run (Run.valid_start cache b.pattern.tokens haystack)
    have hread' : ∀ v, v = some verdict → (v == some true) = verdict := by
      rintro v rfl
      cases verdict <;> rfl
    rw [Pattern.answer_of_admitted hadmitted hverdict]
    exact congrArg Except.ok (hread' _ hread)

/-- Without a limit, the backtracker says of every haystack whether its pattern matches it. -/
theorem verdict_search_of_unlimited {b : Backtracker σ} {cache : Cache}
    (hlimit : b.settings.tableSizeLimit = none)
    (hword : (haystack.length + 1) * (b.pattern.length + 1) ≤ wordMax) {verdict : Bool}
    (hverdict : verdict = true ↔ b.pattern.Matches haystack.toList) :
    (b.search cache haystack).verdict = .ok verdict := by
  rw [verdict_search b cache haystack hword, hlimit]
  exact Pattern.answer_of_admitted rfl hverdict

theorem map_verdict_searchInRoom (b : Backtracker σ) (cache : Cache) (haystack : Haystack σ) :
    (b.searchInRoom cache haystack).map Outcome.verdict =
      b.pattern.answerInRoom b.settings.tableSizeLimit haystack := by
  refine Pattern.map_verdict_searchInRoom (b.search cache) ?_ (verdict_search b cache haystack)
  intro refusal hrefused
  simp only [search, hrefused]

/-- A search over a table of up to `roomMax` cells returns. -/
theorem searchInRoom_of_le (b : Backtracker σ) (cache : Cache) (haystack : Haystack σ)
    (hroom : (haystack.length + 1) * (b.pattern.length + 1) ≤ roomMax) :
    b.searchInRoom cache haystack = .ok (b.search cache haystack) :=
  searchInRoom_of_room _ (roomPanic?_of_le hroom)

/-- The backtracker says yes to the haystacks that its pattern matches and no to all others, as long
as there is room for the table and the limit, if there is one, admits it. A larger table that the limit
admits stops the caller. -/
theorem verdict_search_of_fits (b : Backtracker σ) (cache : Cache) (haystack : Haystack σ)
    (hlimit : ∀ limit ∈ b.settings.tableSizeLimit,
      (haystack.length + 1) * (b.pattern.length + 1) ≤ limit) :
    let cells := (haystack.length + 1) * (b.pattern.length + 1)
    (cells ≤ roomMax → ∃ outcome, b.searchInRoom cache haystack = .ok outcome ∧
      (b.pattern.Matches haystack.toList → outcome.verdict = .ok true) ∧
      (¬ b.pattern.Matches haystack.toList → outcome.verdict = .ok false)) ∧
    (roomMax < cells → b.searchInRoom cache haystack = .error (.text "capacity overflow")) := by
  intro cells
  constructor
  · intro hroom
    have hword : cells ≤ wordMax := Nat.le_trans hroom (Nat.le_of_lt roomMax_lt_wordMax)
    have hadmitted := checkedCellCount_of_le hword hlimit
    refine ⟨_, b.searchInRoom_of_le cache haystack hroom, ?_, ?_⟩
    · intro hmatches
      rw [verdict_search b cache haystack hword]
      exact Pattern.answer_of_admitted hadmitted (by simp [hmatches])
    · intro hmatches
      rw [verdict_search b cache haystack hword]
      exact Pattern.answer_of_admitted hadmitted (by simp [hmatches])
  · intro hroom
    exact searchInRoom_of_panic _ (roomPanic?_of_lt hlimit hroom)

/-- A search in a cache that an earlier one has left half done, under the smallest limit, and one without
limit over a table that is one cell too large. -/
theorem verdict_search_of_fits_used_cache :
    let b : Backtracker UInt8 := ⟨{ tableSizeLimit? := some (some 12) }, ⟨[.lit 97, .star, .any], rfl⟩⟩
    let cache : Cache := ⟨[⟨7, 2⟩, ⟨0, 0⟩], .filled 5 40 (some false), 40⟩
    let haystack : Haystack UInt8 := .ofList [97, 98]
    let unlimited : Backtracker Unit := ⟨{}, .empty⟩
    let longest : Haystack Unit := .replicate roomMax ()
    (∀ limit ∈ b.settings.tableSizeLimit,
        (haystack.length + 1) * (b.pattern.length + 1) ≤ limit) ∧
      (∃ outcome, b.searchInRoom cache haystack = .ok outcome ∧ outcome.verdict = .ok true) ∧
      (∀ limit ∈ unlimited.settings.tableSizeLimit,
        (longest.length + 1) * (unlimited.pattern.length + 1) ≤ limit) ∧
      unlimited.searchInRoom {} longest = .error (.text "capacity overflow") := by
  intro b cache haystack unlimited longest
  have hroom : (haystack.length + 1) * (b.pattern.length + 1) ≤ roomMax := by decide
  have hlimit : ∀ limit ∈ b.settings.tableSizeLimit,
      (haystack.length + 1) * (b.pattern.length + 1) ≤ limit := by decide
  have hunlimited : ∀ limit ∈ unlimited.settings.tableSizeLimit,
      (longest.length + 1) * (unlimited.pattern.length + 1) ≤ limit := nofun
  have hmatches : b.pattern.Matches haystack.toList := by
    rw [Haystack.toList_ofList]
    have hstar : (⟨0, .lit 97, true⟩ : Atom UInt8).Takes [97] :=
      Atom.takes_repeated_iff.mpr (by simp [Token.accepts])
    have hany : (⟨2, .any, false⟩ : Atom UInt8).Takes [98] :=
      Atom.takes_single_iff.mpr ⟨98, rfl, rfl⟩
    exact cut_cons_iff.mpr ⟨[97], [98], rfl, hstar, cut_singleton_iff.mpr hany⟩
  obtain ⟨outcome, hreturns, hyes, -⟩ := (verdict_search_of_fits b cache haystack hlimit).1 hroom
  exact ⟨hlimit, ⟨outcome, hreturns, hyes hmatches⟩, hunlimited,
    (verdict_search_of_fits unlimited {} longest hunlimited).2 (by decide)⟩

/-- A word counts the cells of a table that there is no room for. The empty pattern does not match the
haystack, and the search gives no verdict. -/
theorem longest_units_get_no_verdict :
    let b : Backtracker Unit := ⟨{}, .empty⟩
    let haystack : Haystack Unit := .replicate (2 ^ 63 - 1) ()
    (haystack.length + 1) * (b.pattern.length + 1) ≤ wordMax ∧
      (∀ limit ∈ b.settings.tableSizeLimit,
        (haystack.length + 1) * (b.pattern.length + 1) ≤ limit) ∧
      ¬ b.pattern.Matches haystack.toList ∧
      ∀ outcome, b.searchInRoom {} haystack ≠ .ok outcome := by
  intro b haystack
  have hlimit : ∀ limit ∈ b.settings.tableSizeLimit,
      (haystack.length + 1) * (b.pattern.length + 1) ≤ limit := nofun
  have hroom : roomMax < (haystack.length + 1) * (b.pattern.length + 1) := by decide
  refine ⟨by decide, hlimit, ?_, ?_⟩
  · intro hmatches
    have hempty := congrArg List.length (cut_nil_iff.mp hmatches)
    rw [Haystack.length_toList] at hempty
    exact absurd hempty (by decide)
  · rw [Backtracker.searchInRoom, searchInRoom_of_panic _ (roomPanic?_of_lt hlimit hroom)]
    exact nofun

end Backtracker

namespace TableMatcher

/-- The table engine gives the answer to the search, whatever its cache holds. -/
theorem verdict_search (m : TableMatcher σ) (cache : Cache) (haystack : Haystack σ)
    (hword : (haystack.length + 1) * (m.pattern.length + 1) ≤ wordMax) :
    (m.search cache haystack).verdict =
      m.pattern.answer m.settings.tableSizeLimit haystack := by
  rw [search]
  split
  · next refusal hrefused => exact (Pattern.answer_of_refused hrefused).symm
  · next cells hadmitted =>
    obtain rfl := (eq_cellCount_of_checked hadmitted).trans (cellCount_of_le hword)
    exact (Pattern.answer_of_admitted hadmitted (holds_fill_iff (by rw [Cache.setup_eq]))).symm

theorem map_verdict_searchInRoom (m : TableMatcher σ) (cache : Cache) (haystack : Haystack σ) :
    (m.searchInRoom cache haystack).map Outcome.verdict =
      m.pattern.answerInRoom m.settings.tableSizeLimit haystack := by
  refine Pattern.map_verdict_searchInRoom (m.search cache) ?_ (verdict_search m cache haystack)
  intro refusal hrefused
  simp only [search, hrefused]

end TableMatcher

/-- The two engines give the same verdict or the same refusal to every search, or both of them stop their
caller: exactly where the table has more than `roomMax` cells and the limit admits their count. -/
theorem verdict_backtracker_eq_table (builder builder' : SearchBuilder)
    (hlimit : builder.settings.tableSizeLimit = builder'.settings.tableSizeLimit)
    (p : Pattern σ) (haystack : Haystack σ) (cache : Backtracker.Cache)
    (cache' : TableMatcher.Cache) :
    let cells := (haystack.length + 1) * (p.length + 1)
    let found := ((Backtracker.ofPattern builder p).searchInRoom cache haystack).map Outcome.verdict
    let found' := ((TableMatcher.ofPattern builder' p).searchInRoom cache' haystack).map Outcome.verdict
    found = found' ∧
    ∀ panic, found = .error panic ↔ roomMax < cells ∧
      (∀ limit ∈ builder.settings.tableSizeLimit, min cells wordMax ≤ limit) ∧
      panic = .text "capacity overflow" := by
  intro cells found found'
  have hfound : found = p.answerInRoom builder.settings.tableSizeLimit haystack :=
    Backtracker.map_verdict_searchInRoom (.ofPattern builder p) cache haystack
  have hfound' : found' = p.answerInRoom builder'.settings.tableSizeLimit haystack :=
    TableMatcher.map_verdict_searchInRoom (.ofPattern builder' p) cache' haystack
  constructor
  · rw [hfound, hfound', hlimit]
  · intro panic
    rw [hfound, Pattern.answerInRoom_eq_error_iff, roomPanic?_eq_some_iff]

/-- Both engines find the match under a limit that just admits it, both refuse it under a limit that is one
cell smaller, and both stop without room, whether the limit is left out or waived, and whatever is left in
their caches. -/
theorem verdict_backtracker_eq_table_three_ways :
    let admitting : SearchBuilder := { settings := { tableSizeLimit? := some (some 12) } }
    let refusing : SearchBuilder := { settings := { tableSizeLimit? := some (some 11) } }
    let waiving : SearchBuilder := { settings := { tableSizeLimit? := some none } }
    let p : Pattern UInt8 := ⟨[.lit 97, .star, .any], rfl⟩
    let haystack : Haystack UInt8 := .ofList [97, 98]
    let longest : Haystack UInt8 := .replicate (2 ^ 61) 97
    let cache : Backtracker.Cache := ⟨[⟨7, 2⟩], .filled 5 40 (some true), 40⟩
    let cache' : TableMatcher.Cache := ⟨.filled 5 40 true, 40⟩
    let found (builder : SearchBuilder) (h : Haystack UInt8) :=
      ((Backtracker.ofPattern builder p).searchInRoom cache h).map Outcome.verdict
    let found' (builder : SearchBuilder) (h : Haystack UInt8) :=
      ((TableMatcher.ofPattern builder p).searchInRoom cache' h).map Outcome.verdict
    found admitting haystack = .ok (.ok true) ∧ found' admitting haystack = .ok (.ok true) ∧
      found refusing haystack = .ok (.error ⟨12, 11⟩) ∧
      found' refusing haystack = .ok (.error ⟨12, 11⟩) ∧
      ({} : SearchBuilder).settings.tableSizeLimit = waiving.settings.tableSizeLimit ∧
      found {} longest = .error (.text "capacity overflow") ∧
      found' waiving longest = .error (.text "capacity overflow") := by
  intro admitting refusing waiving p haystack longest cache cache' found found'
  obtain ⟨hadmitted, -⟩ :=
    verdict_backtracker_eq_table admitting admitting rfl p haystack cache cache'
  obtain ⟨hrefused, -⟩ := verdict_backtracker_eq_table refusing refusing rfl p haystack cache cache'
  have hlimit : ({} : SearchBuilder).settings.tableSizeLimit = waiving.settings.tableSizeLimit := rfl
  obtain ⟨hlongest, hstops⟩ := verdict_backtracker_eq_table {} waiving hlimit p longest cache cache'
  have hmatch : found admitting haystack = .ok (.ok true) := by decide +kernel
  have hrefusal : found refusing haystack = .ok (.error ⟨12, 11⟩) := rfl
  have hstop : found {} longest = .error (.text "capacity overflow") :=
    (hstops _).mpr ⟨by decide, nofun, rfl⟩
  exact ⟨hmatch, hadmitted.symm.trans hmatch, hrefusal, hrefused.symm.trans hrefusal, hlimit, hstop,
    hlongest.symm.trans hstop⟩

/-- A word counts the cells of this table too. Neither engine has a verdict or a refusal for it. -/
theorem longest_rooms_stop_both_engines :
    let p : Pattern Unit := ⟨[.any], rfl⟩
    let haystack : Haystack Unit := .replicate (2 ^ 62) ()
    (haystack.length + 1) * (p.length + 1) ≤ wordMax ∧
      (∀ result, ((Backtracker.ofPattern {} p).searchInRoom {} haystack).map Outcome.verdict ≠
        .ok result) ∧
      ∀ result, ((TableMatcher.ofPattern {} p).searchInRoom {} haystack).map Outcome.verdict ≠
        .ok result := by
  intro p haystack
  have hstop : p.answerInRoom none haystack = .error (.text "capacity overflow") :=
    Pattern.answerInRoom_eq_error_iff.mpr (roomPanic?_of_lt nofun (by decide))
  refine ⟨by decide, ?_, ?_⟩
  · rw [Backtracker.map_verdict_searchInRoom]
    exact fun result hresult => nomatch hstop.symm.trans hresult
  · rw [TableMatcher.map_verdict_searchInRoom]
    exact fun result hresult => nomatch hstop.symm.trans hresult

end StarMatch
