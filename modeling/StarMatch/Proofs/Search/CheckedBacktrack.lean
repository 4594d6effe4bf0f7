import StarMatch.Proofs.Search.Checks
import StarMatch.Proofs.Search.Demand

/-!
# The backtracker under checks

The same search, written with a check at every step that can go wrong: wherever a verdict is looked up
or recorded, the state must be one of the search and must not stand at a star, its place in the grid is
worked out in machine words and must be in the grid, and no verdict may be recorded twice. No check ever
fails. The states that wait in a run have been asked for, so none of them stands at a star, and what a
step looks up is what the state asks for.
-/

namespace StarMatch.Backtracker

universe u

variable {σ : Type u} [BEq σ]

section Definitions

variable (tokens : Array (Token σ)) (haystack : Haystack σ)

/-- The place of a state among the verdicts. -/
def Memo.checkedPlace (memo : Memo) (s : State) : Checked Nat := do
  Checked.sum (← Checked.product s.consumed memo.stride) s.passed

omit [BEq σ] in
/-- Passes a state of the search that does not stand at a star. -/
def State.check (s : State) : Checked Unit :=
  if haystack.length < s.consumed ∨ tokens.size < s.passed then .error .outside
  else if tokens[s.passed]?.any Token.isStar then .error .atStar
  else .ok ()

/-- Looks up the verdict of a state. -/
def Memo.checkedVerdict (memo : Memo) (s : State) : Checked (Option Bool) := do
  s.check tokens haystack
  Checked.read memo.cells (← memo.checkedPlace s) id

/-- Records the verdict of a state that has none. -/
def Memo.checkedRecord (memo : Memo) (s : State) (verdict : Bool) : Checked Memo := do
  let place ← memo.checkedPlace s
  match ← Checked.read memo.cells place id with
  | some _ => .error .rewritten
  | none => return ⟨memo.stride, ← Checked.write memo.cells place (some verdict)⟩

/-- The step of a state whose verdict is that of the given state. -/
def Step.checkedLike (memo : Memo) (s : State) : Checked Step := do
  match ← memo.checkedVerdict tokens haystack s with
  | none => return .needs s
  | some verdict => return .decided verdict

/-- Whether the token of a state accepts the next symbol. No token is read where there is no symbol. -/
def State.checkedAccepted (s : State) : Checked Bool :=
  match haystack.get? s.consumed with
  | none => return false
  | some symbol => Checked.read tokens s.passed (·.accepts symbol)

/-- Looks at a state. -/
def checkedStep (memo : Memo) (s : State) : Checked Step :=
  if s.passed = tokens.size then return .decided (s.consumed == haystack.length)
  else do
    let accepted ← s.checkedAccepted tokens haystack
    let behind ← Checked.sum s.passed 1
    if tokens[behind]?.any Token.isStar then
      let skipped : State := ⟨s.consumed, ← Checked.sum s.passed 2⟩
      match ← memo.checkedVerdict tokens haystack skipped with
      | none => return .needs skipped
      | some true => return .decided true
      | some false =>
        if accepted then
          Step.checkedLike tokens haystack memo ⟨← Checked.sum s.consumed 1, s.passed⟩
        else return .decided false
    else if accepted then
      Step.checkedLike tokens haystack memo
        ⟨← Checked.sum s.consumed 1, ← Checked.sum s.passed 1⟩
    else return .decided false

/-- Looks once at the state in front. -/
def Run.checkedAdvance : Run → Checked Run
  | ⟨[], memo, evaluated⟩ => return ⟨[], memo, evaluated⟩
  | ⟨s :: below, memo, evaluated⟩ => do
    match ← memo.checkedVerdict tokens haystack s with
    | some _ => return ⟨below, memo, evaluated⟩
    | none =>
      match ← checkedStep tokens haystack memo s with
      | .decided verdict => return ⟨below, ← memo.checkedRecord s verdict, evaluated + 1⟩
      | .needs next => return ⟨next :: s :: below, memo, evaluated⟩

/-- Advances a run until no state is pending, at most `fuel` times. -/
def Run.checkedFinish : Nat → Run → Checked Run
  | 0, run => return run
  | fuel + 1, run =>
    match run.pending with
    | [] => return run
    | _ :: _ => do checkedFinish fuel (← run.checkedAdvance tokens haystack)

end Definitions

/-- Whether the whole haystack matches the pattern. -/
def checkedSearch (b : Backtracker σ) (cache : Cache) (haystack : Haystack σ) :
    Checked (Outcome Cache) :=
  match checkedCellCount haystack.length b.pattern.length b.settings.tableSizeLimit with
  | .error refusal => return ⟨.error refusal, cache, []⟩
  | .ok cells => do
    let ready := cache.setup cells (← Checked.sum b.pattern.length 1)
    let tokens := b.pattern.tokens.toArray
    let finished ← (Run.start ready).checkedFinish tokens haystack (2 * ready.memo.size)
    let verdict ← finished.memo.checkedVerdict tokens haystack ⟨0, 0⟩
    return ⟨.ok (verdict == some true),
      { ready with pending := finished.pending, memo := finished.memo },
      [.backtrackEvaluated finished.evaluated cells]⟩

/-- A state of the search that does not stand at a star. -/
structure State.Stands (s : State) (p : Pattern σ) (haystack : Haystack σ) : Prop where
  mem : s ∈ states haystack.length p.tokens.length
  not_star : p.tokens[s.passed]?.any Token.isStar = false

variable {p : Pattern σ} {haystack : Haystack σ} {memo : Memo} {s next : State} {token : Token σ}

section Stands

omit [BEq σ]

theorem State.Stands.skipped (h : s.Stands p haystack)
    (hstar : p.tokens[s.passed + 1]?.any Token.isStar = true) :
    (⟨s.consumed, s.passed + 2⟩ : State).Stands p haystack :=
  ⟨skipped_mem_states h.mem hstar, p.not_star_behind_star hstar⟩

theorem State.Stands.taken {accepts : σ → Bool} (h : s.Stands p haystack)
    (haccepted : (haystack.get? s.consumed).any accepts = true) :
    (⟨s.consumed + 1, s.passed⟩ : State).Stands p haystack :=
  ⟨taken_mem_states h.mem haccepted, h.not_star⟩

theorem State.stands_behind {accepts : σ → Bool} (htoken : p.tokens[s.passed]? = some token)
    (hstar : p.tokens[s.passed + 1]?.any Token.isStar = false)
    (haccepted : (haystack.get? s.consumed).any accepts = true) :
    (⟨s.consumed + 1, s.passed + 1⟩ : State).Stands p haystack :=
  ⟨behind_mem_states htoken haccepted, hstar⟩

theorem State.Stands.check_eq (h : s.Stands p haystack) :
    s.check p.tokens.toArray haystack = .ok () := by
  obtain ⟨hconsumed, hpassed⟩ := mem_states.mp h.mem
  rw [State.check, if_neg (by simp only [List.size_toArray]; omega), List.getElem?_toArray, h.not_star]
  rfl

end Stands

section Places

omit [BEq σ]

/-- The place of a state of the search is a word. -/
theorem Memo.Covers.checkedPlace_eq (h : memo.Covers haystack.length p.tokens.length)
    (hword : (haystack.length + 1) * (p.tokens.length + 1) ≤ wordMax)
    (hs : s ∈ states haystack.length p.tokens.length) :
    memo.checkedPlace s = .ok (memo.index s.consumed s.passed) := by
  obtain ⟨hconsumed, hpassed⟩ := mem_states.mp hs
  have hplace := h.index_lt (Nat.lt_succ_of_le hconsumed) (Nat.lt_succ_of_le hpassed)
  rw [h.size_eq, Grid.index] at hplace
  rw [checkedPlace, Checked.product_eq (by omega), Checked.ok_bind, Checked.sum_eq (by omega),
    Grid.index]

/-- There is something at the place of a state of the search. -/
theorem Memo.Covers.getElem?_place (h : memo.Covers haystack.length p.tokens.length)
    (hs : s ∈ states haystack.length p.tokens.length) :
    memo.cells[memo.index s.consumed s.passed]? = some (memo.verdict? s) := by
  obtain ⟨hconsumed, hpassed⟩ := mem_states.mp hs
  have hplace := h.index_lt (Nat.lt_succ_of_le hconsumed) (Nat.lt_succ_of_le hpassed)
  rw [Grid.size] at hplace
  rw [verdict?, Grid.get?, Array.getElem?_eq_getElem hplace, Option.join_some]

theorem Memo.Covers.checkedVerdict_eq (h : memo.Covers haystack.length p.tokens.length)
    (hword : (haystack.length + 1) * (p.tokens.length + 1) ≤ wordMax) (hs : s.Stands p haystack) :
    memo.checkedVerdict p.tokens.toArray haystack s = .ok (memo.verdict? s) := by
  rw [checkedVerdict, hs.check_eq, Checked.ok_bind, h.checkedPlace_eq hword hs.mem, Checked.ok_bind,
    Checked.read_eq (h.getElem?_place hs.mem), id]

theorem Memo.Covers.checkedRecord_eq (h : memo.Covers haystack.length p.tokens.length)
    (hword : (haystack.length + 1) * (p.tokens.length + 1) ≤ wordMax)
    (hs : s ∈ states haystack.length p.tokens.length) (hundecided : memo.verdict? s = none)
    (verdict : Bool) : memo.checkedRecord s verdict = .ok (memo.record s verdict) := by
  have hread := h.getElem?_place hs
  have hplace := (Array.getElem?_eq_some_iff.mp hread).1
  rw [checkedRecord, h.checkedPlace_eq hword hs, Checked.ok_bind, Checked.read_eq hread, id,
    Checked.ok_bind, hundecided]
  simp only [Checked.write_eq hplace, Checked.ok_bind, Checked.pure_eq_ok]
  rfl

theorem Step.checkedLike_eq (h : memo.Covers haystack.length p.tokens.length)
    (hword : (haystack.length + 1) * (p.tokens.length + 1) ≤ wordMax) (hs : s.Stands p haystack) :
    Step.checkedLike p.tokens.toArray haystack memo s = .ok (Step.like memo s) := by
  rw [Step.checkedLike, h.checkedVerdict_eq hword hs, Checked.ok_bind, Step.like]
  cases memo.verdict? s <;> rfl

end Places

theorem State.checkedAccepted_eq (htoken : p.tokens[s.passed]? = some token) :
    s.checkedAccepted p.tokens.toArray haystack =
      .ok ((haystack.get? s.consumed).any token.accepts) := by
  rw [State.checkedAccepted]
  cases haystack.get? s.consumed with
  | none => rfl
  | some symbol => exact Checked.read_eq (List.getElem?_toArray.trans htoken) _

/-- A look at a state of the search that does not stand at a star passes all checks. -/
theorem checkedStep_eq (h : memo.Covers haystack.length p.tokens.length)
    (hword : (haystack.length + 1) * (p.tokens.length + 1) ≤ wordMax) (hs : s.Stands p haystack) :
    checkedStep p.tokens.toArray haystack memo s = .ok (step p.tokens.toArray haystack memo s) := by
  obtain ⟨hconsumed, hpassed⟩ := mem_states.mp hs.mem
  have hrows := Checked.rows_le_wordMax hword
  have hcolumns := Checked.columns_le_wordMax hword
  rw [checkedStep, List.size_toArray]
  cases htoken : p.tokens[s.passed]? with
  | none =>
    have hend : s.passed = p.tokens.length := by
      have hle := List.getElem?_eq_none_iff.mp htoken
      omega
    rw [if_pos hend, step_end htoken]
    rfl
  | some token =>
    have hlt := (List.getElem?_eq_some_iff.mp htoken).1
    rw [if_neg (Nat.ne_of_lt hlt), State.checkedAccepted_eq htoken, Checked.ok_bind,
      Checked.sum_eq (by omega), Checked.ok_bind, List.getElem?_toArray]
    cases hstar : p.tokens[s.passed + 1]?.any Token.isStar with
    | true =>
      have hskipped := hs.skipped hstar
      have hpast : s.passed + 2 ≤ p.tokens.length := (mem_states.mp hskipped.mem).2
      rw [if_pos rfl, Checked.sum_eq (by omega), Checked.ok_bind]
      simp only [h.checkedVerdict_eq hword hskipped, Checked.ok_bind]
      cases hskip : memo.verdict? ⟨s.consumed, s.passed + 2⟩ with
      | none => rw [step_repeated_of_unknown htoken hstar hskip, Checked.pure_eq_ok]
      | some skip =>
        cases skip with
        | true =>
          rw [step_repeated_of_accepted htoken hstar hskip]
          rfl
        | false =>
          rw [step_repeated_of_rejected htoken hstar hskip]
          cases haccepted : (haystack.get? s.consumed).any token.accepts with
          | false => rfl
          | true =>
            have hnext := lt_length_of_accepted haccepted
            rw [if_pos rfl, if_pos rfl, Checked.sum_eq (by omega), Checked.ok_bind,
              Step.checkedLike_eq h hword (hs.taken haccepted)]
    | false =>
      rw [if_neg Bool.false_ne_true, step_single htoken hstar]
      cases haccepted : (haystack.get? s.consumed).any token.accepts with
      | false => rfl
      | true =>
        have hnext := lt_length_of_accepted haccepted
        rw [if_pos rfl, if_pos rfl, Checked.sum_eq (by omega), Checked.ok_bind,
          Checked.ok_bind, Step.checkedLike_eq h hword (State.stands_behind htoken hstar haccepted)]

/-- Behind a star there can be a state at another star, which is what the shape of a pattern excludes. -/
example : checkedStep #[.lit 'a', .star, .star] (.ofList ['a']) (.filled 4 8 none) ⟨0, 0⟩ =
    .error .atStar := by decide

/-- The states that wait have been asked for, so none of them stands at a star. -/
theorem Run.Lazy.stands {run : Run} (h : run.Lazy p.tokens haystack)
    (hvalid : run.Valid p.tokens haystack) : ∀ s ∈ run.pending, s.Stands p haystack := by
  intro s hs
  exact ⟨hvalid.pending_mem s hs, h.pending_asked _ (closedUnderAsking_not_star p haystack) s hs⟩

namespace Run

variable {run : Run}

theorem checkedAdvance_eq (h : run.Lazy p.tokens haystack) (hvalid : run.Valid p.tokens haystack)
    (hword : (haystack.length + 1) * (p.tokens.length + 1) ≤ wordMax) :
    run.checkedAdvance p.tokens.toArray haystack =
      .ok (run.advance p.tokens.toArray haystack) := by
  have hstands := h.stands hvalid
  obtain ⟨_ | ⟨s, below⟩, memo, evaluated⟩ := run
  · rfl
  · have hs := hstands s List.mem_cons_self
    have hundecided : memo.verdict? s = none := hvalid.pending_undecided s List.mem_cons_self
    simp only [checkedAdvance, hvalid.covers.checkedVerdict_eq hword hs, hundecided,
      checkedStep_eq hvalid.covers hword hs, Checked.ok_bind]
    cases hstep : step p.tokens.toArray haystack memo s with
    | decided verdict =>
      rw [hvalid.advance_of_decided hstep]
      simp only [hvalid.covers.checkedRecord_eq hword hs.mem hundecided, Checked.ok_bind,
        Checked.pure_eq_ok]
    | needs next =>
      rw [hvalid.advance_of_needs hstep]
      rfl

/-- A run passes all checks for any number of looks. -/
theorem checkedFinish_eq (h : run.Lazy p.tokens haystack) (hvalid : run.Valid p.tokens haystack)
    (hword : (haystack.length + 1) * (p.tokens.length + 1) ≤ wordMax) (fuel : Nat) :
    run.checkedFinish p.tokens.toArray haystack fuel =
      .ok (run.finish p.tokens.toArray haystack fuel) := by
  induction fuel generalizing run with
  | zero => rfl
  | succ fuel ih =>
    rw [checkedFinish, finish]
    cases run.pending with
    | nil => rfl
    | cons s below =>
      simp only [checkedAdvance_eq h hvalid hword, Checked.ok_bind]
      exact ih (h.advance hvalid) hvalid.advance

end Run

/-- An admitted search passes all checks. -/
theorem checkedSearch_eq (b : Backtracker σ) (cache : Cache) (haystack : Haystack σ)
    (hword : (haystack.length + 1) * (b.pattern.length + 1) ≤ wordMax)
    (hlimit : ∀ limit ∈ b.settings.tableSizeLimit,
      (haystack.length + 1) * (b.pattern.length + 1) ≤ limit) :
    b.checkedSearch cache haystack = .ok (b.search cache haystack) := by
  have hcolumns := Checked.columns_le_wordMax hword
  have hvalid : (Run.start (cache.setup ((haystack.length + 1) * (b.pattern.length + 1))
      (b.pattern.length + 1))).Valid b.pattern.tokens haystack := Run.valid_start cache _ _
  have hlazy : (Run.start (cache.setup ((haystack.length + 1) * (b.pattern.length + 1))
      (b.pattern.length + 1))).Lazy b.pattern.tokens haystack := Run.lazy_start cache _ _
  have hroot : (⟨0, 0⟩ : State).Stands b.pattern haystack := ⟨by simp, b.pattern.front_not_star⟩
  rw [checkedSearch, search, checkedCellCount_of_le hword hlimit]
  simp only [Checked.sum_eq hcolumns, Checked.ok_bind]
  rw [Run.checkedFinish_eq hlazy hvalid hword, Checked.ok_bind,
    (hvalid.finish _).covers.checkedVerdict_eq hword hroot]
  rfl

end StarMatch.Backtracker
