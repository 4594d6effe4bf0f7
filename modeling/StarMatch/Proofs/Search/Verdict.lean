import StarMatch.Proofs.Pattern.Atoms
import StarMatch.Proofs.Pattern.Cut
import StarMatch.Proofs.Search.Memo

/-!
# What a verdict says

A state accepts when the rest of the haystack can be cut along the rest of the pattern. Whether it
does follows from at most two states further on, in the same three cases in which a step looks at a
state, so a step that decides a state from correct verdicts decides it correctly.
-/

namespace StarMatch.Backtracker

universe u

variable {σ : Type u} [BEq σ]

/-- What is left of the haystack at a state matches what is left of the pattern. -/
def State.Accepts (s : State) (tokens : List (Token σ)) (haystack : Haystack σ) : Prop :=
  Cut (Atom.ofTokensFrom s.passed (tokens.drop s.passed)) (haystack.toList.drop s.consumed)

/-- How much of the haystack and of the pattern is behind a state, taken together. -/
def State.progress (s : State) : Nat :=
  s.consumed + s.passed

/-- All verdicts found so far are right. -/
def Memo.Sound (memo : Memo) (tokens : List (Token σ)) (haystack : Haystack σ) : Prop :=
  ∀ s ∈ states haystack.length tokens.length, ∀ verdict, memo.verdict? s = some verdict →
    (verdict = true ↔ s.Accepts tokens haystack)

variable {tokens : List (Token σ)} {haystack : Haystack σ} {memo : Memo} {s next : State}
  {token : Token σ}

omit [BEq σ] in
/-- The next symbol of a haystack is the first one of what is left of it. -/
theorem exists_drop_eq_cons_iff {accepts : σ → Bool} {P : List σ → Prop} {consumed : Nat} :
    (∃ symbol rest, haystack.toList.drop consumed = symbol :: rest ∧ accepts symbol = true ∧ P rest) ↔
      (haystack.get? consumed).any accepts = true ∧ P (haystack.toList.drop (consumed + 1)) := by
  rw [← Haystack.getElem?_toList]
  by_cases h : consumed < haystack.toList.length
  · have hdrop := List.drop_eq_getElem_cons h
    rw [List.getElem?_eq_getElem h, Option.any_some]
    constructor
    · rintro ⟨symbol, rest, hrest, hsymbol, hP⟩
      rw [hdrop] at hrest
      obtain ⟨rfl, rfl⟩ := List.cons.inj hrest
      exact ⟨hsymbol, hP⟩
    · rintro ⟨hsymbol, hP⟩
      exact ⟨_, _, hdrop, hsymbol, hP⟩
  · have hle := Nat.le_of_not_lt h
    simp [List.drop_eq_nil_of_le hle, List.getElem?_eq_none hle]

/-- At the end of the pattern, nothing may be left of the haystack. -/
theorem accepts_end_iff (htoken : tokens[s.passed]? = none) (hs : s.consumed ≤ haystack.length) :
    s.Accepts tokens haystack ↔ s.consumed = haystack.length := by
  have htokens : tokens.drop s.passed = [] :=
    List.drop_eq_nil_of_le (List.getElem?_eq_none_iff.mp htoken)
  rw [State.Accepts, htokens, Atom.ofTokensFrom, cut_nil_iff, List.drop_eq_nil_iff,
    Haystack.length_toList]
  omega

/-- A repeated atom is passed over, or it takes the next symbol and stays. -/
theorem accepts_repeated_iff (htoken : tokens[s.passed]? = some token)
    (hstar : tokens[s.passed + 1]?.any Token.isStar = true) :
    s.Accepts tokens haystack ↔
      (⟨s.consumed, s.passed + 2⟩ : State).Accepts tokens haystack ∨
        (haystack.get? s.consumed).any token.accepts = true ∧
          (⟨s.consumed + 1, s.passed⟩ : State).Accepts tokens haystack := by
  simp only [State.Accepts]
  rw [Atom.ofTokensFrom_drop_repeated htoken hstar, cut_repeated_cons_iff, exists_drop_eq_cons_iff]

/-- An atom that is not repeated takes the next symbol. -/
theorem accepts_single_iff (htoken : tokens[s.passed]? = some token)
    (hstar : tokens[s.passed + 1]?.any Token.isStar = false) :
    s.Accepts tokens haystack ↔
      (haystack.get? s.consumed).any token.accepts = true ∧
        (⟨s.consumed + 1, s.passed + 1⟩ : State).Accepts tokens haystack := by
  simp only [State.Accepts]
  rw [Atom.ofTokensFrom_drop_single htoken hstar, cut_single_cons_iff, exists_drop_eq_cons_iff]

omit [BEq σ] in
theorem lt_length_of_accepted {accepts : σ → Bool} {consumed : Nat}
    (h : (haystack.get? consumed).any accepts = true) : consumed < haystack.length := by
  by_contra hge
  rw [Haystack.get?, dif_neg hge] at h
  cases h

@[simp] theorem like_eq_decided_iff {verdict : Bool} :
    Step.like memo s = .decided verdict ↔ memo.verdict? s = some verdict := by
  cases h : memo.verdict? s <;> simp [Step.like, h]

@[simp] theorem like_eq_needs_iff :
    Step.like memo s = .needs next ↔ memo.verdict? s = none ∧ s = next := by
  cases h : memo.verdict? s <;> simp [Step.like, h]

theorem step_end (htoken : tokens[s.passed]? = none) :
    step tokens.toArray haystack memo s = .decided (s.consumed == haystack.length) := by
  simp [step, htoken]

theorem step_repeated_of_unknown (htoken : tokens[s.passed]? = some token)
    (hstar : tokens[s.passed + 1]?.any Token.isStar = true)
    (hskip : memo.verdict? ⟨s.consumed, s.passed + 2⟩ = none) :
    step tokens.toArray haystack memo s = .needs ⟨s.consumed, s.passed + 2⟩ := by
  simp [step, htoken, hstar, hskip]

theorem step_repeated_of_accepted (htoken : tokens[s.passed]? = some token)
    (hstar : tokens[s.passed + 1]?.any Token.isStar = true)
    (hskip : memo.verdict? ⟨s.consumed, s.passed + 2⟩ = some true) :
    step tokens.toArray haystack memo s = .decided true := by
  simp [step, htoken, hstar, hskip]

/-- If skipping a repeated atom rejects, the atom must take the next symbol. -/
theorem step_repeated_of_rejected (htoken : tokens[s.passed]? = some token)
    (hstar : tokens[s.passed + 1]?.any Token.isStar = true)
    (hskip : memo.verdict? ⟨s.consumed, s.passed + 2⟩ = some false) :
    step tokens.toArray haystack memo s =
      if (haystack.get? s.consumed).any token.accepts then
        .like memo ⟨s.consumed + 1, s.passed⟩
      else .decided false := by
  simp [step, htoken, hstar, hskip]

theorem step_single (htoken : tokens[s.passed]? = some token)
    (hstar : tokens[s.passed + 1]?.any Token.isStar = false) :
    step tokens.toArray haystack memo s =
      if (haystack.get? s.consumed).any token.accepts then
        .like memo ⟨s.consumed + 1, s.passed + 1⟩
      else .decided false := by
  simp [step, htoken, hstar]

omit [BEq σ] in
theorem skipped_mem_states (hs : s ∈ states haystack.length tokens.length)
    (hstar : tokens[s.passed + 1]?.any Token.isStar = true) :
    (⟨s.consumed, s.passed + 2⟩ : State) ∈ states haystack.length tokens.length := by
  obtain ⟨next, hnext, -⟩ := (Option.any_eq_true _ _).mp hstar
  obtain ⟨hlt, -⟩ := List.getElem?_eq_some_iff.mp hnext
  exact mem_states.mpr ⟨(mem_states.mp hs).1, hlt⟩

omit [BEq σ] in
theorem taken_mem_states {accepts : σ → Bool} (hs : s ∈ states haystack.length tokens.length)
    (haccepted : (haystack.get? s.consumed).any accepts = true) :
    (⟨s.consumed + 1, s.passed⟩ : State) ∈ states haystack.length tokens.length :=
  mem_states.mpr ⟨lt_length_of_accepted haccepted, (mem_states.mp hs).2⟩

omit [BEq σ] in
theorem behind_mem_states {accepts : σ → Bool} (htoken : tokens[s.passed]? = some token)
    (haccepted : (haystack.get? s.consumed).any accepts = true) :
    (⟨s.consumed + 1, s.passed + 1⟩ : State) ∈ states haystack.length tokens.length := by
  obtain ⟨hlt, -⟩ := List.getElem?_eq_some_iff.mp htoken
  exact mem_states.mpr ⟨lt_length_of_accepted haccepted, hlt⟩

/-- A step that decides a state from right verdicts decides it rightly. -/
theorem accepts_iff_of_step_decided {verdict : Bool} (hsound : memo.Sound tokens haystack)
    (hs : s ∈ states haystack.length tokens.length)
    (h : step tokens.toArray haystack memo s = .decided verdict) :
    verdict = true ↔ s.Accepts tokens haystack := by
  cases htoken : tokens[s.passed]? with
  | none =>
    rw [step_end htoken, Step.decided.injEq] at h
    rw [accepts_end_iff htoken (mem_states.mp hs).1, ← h, beq_iff_eq]
  | some token =>
    cases hstar : tokens[s.passed + 1]?.any Token.isStar with
    | true =>
      have hskipped := hsound _ (skipped_mem_states hs hstar)
      rw [accepts_repeated_iff htoken hstar]
      cases hskip : memo.verdict? ⟨s.consumed, s.passed + 2⟩ with
      | none =>
        rw [step_repeated_of_unknown htoken hstar hskip] at h
        cases h
      | some skip =>
        rw [← hskipped _ hskip]
        cases skip with
        | true =>
          rw [step_repeated_of_accepted htoken hstar hskip, Step.decided.injEq] at h
          simp [← h]
        | false =>
          rw [step_repeated_of_rejected htoken hstar hskip] at h
          split at h
          · next haccepted =>
            have htaken := hsound _ (taken_mem_states hs haccepted) _ (like_eq_decided_iff.mp h)
            simp [haccepted, htaken]
          · next haccepted => simp [haccepted, ← Step.decided.inj h]
    | false =>
      rw [accepts_single_iff htoken hstar]
      rw [step_single htoken hstar] at h
      split at h
      · next haccepted =>
        have hbehind := hsound _ (behind_mem_states htoken haccepted) _ (like_eq_decided_iff.mp h)
        simp [haccepted, hbehind]
      · next haccepted => simp [haccepted, ← Step.decided.inj h]

/-- A step that needs another state needs one of the table, which has no verdict yet and is further
on. -/
theorem mem_states_of_step_needs (hs : s ∈ states haystack.length tokens.length)
    (h : step tokens.toArray haystack memo s = .needs next) :
    next ∈ states haystack.length tokens.length ∧ memo.verdict? next = none ∧
      s.progress < next.progress := by
  cases htoken : tokens[s.passed]? with
  | none =>
    rw [step_end htoken] at h
    cases h
  | some token =>
    cases hstar : tokens[s.passed + 1]?.any Token.isStar with
    | true =>
      cases hskip : memo.verdict? ⟨s.consumed, s.passed + 2⟩ with
      | none =>
        rw [step_repeated_of_unknown htoken hstar hskip] at h
        obtain rfl := Step.needs.inj h
        exact ⟨skipped_mem_states hs hstar, hskip, by simp only [State.progress]; omega⟩
      | some skip =>
        cases skip with
        | true =>
          rw [step_repeated_of_accepted htoken hstar hskip] at h
          cases h
        | false =>
          rw [step_repeated_of_rejected htoken hstar hskip] at h
          split at h
          · next haccepted =>
            obtain ⟨hnext, rfl⟩ := like_eq_needs_iff.mp h
            exact ⟨taken_mem_states hs haccepted, hnext, by simp only [State.progress]; omega⟩
          · cases h
    | false =>
      rw [step_single htoken hstar] at h
      split at h
      · next haccepted =>
        obtain ⟨hnext, rfl⟩ := like_eq_needs_iff.mp h
        exact ⟨behind_mem_states htoken haccepted, hnext, by simp only [State.progress]; omega⟩
      · cases h

end StarMatch.Backtracker
