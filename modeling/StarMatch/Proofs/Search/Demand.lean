import Mathlib.Order.Bounds.Basic
import StarMatch.Proofs.Pattern.Parts
import StarMatch.Proofs.Search.Decision
import StarMatch.Proofs.Search.Scratch

/-!
# What a search evaluates

A state asks for the verdicts that its own verdict hangs on, and for the second of them only where the
first has left it open. A search decides the states that are asked for in this way, starting from the
root, and no others. What waits or has been decided was asked for, so it lies in every set that is
closed under asking; and a state is decided only when all that it asks for has been, so the decided
states are such a set themselves once none is waiting.
-/

namespace StarMatch.Backtracker

universe u

variable {σ : Type u} [BEq σ]

/-- The state asks for the verdict of another one: at a repeated atom for the state that skips the
atom, and for the state one symbol further on if that one rejects and the atom accepts the symbol; at
any other atom that accepts the symbol for the state behind both. -/
inductive State.AsksFor (tokens : List (Token σ)) (haystack : Haystack σ) (s : State) : State → Prop where
  | skipped {token : Token σ} (htoken : tokens[s.passed]? = some token)
    (hstar : tokens[s.passed + 1]?.any Token.isStar = true) :
    AsksFor tokens haystack s ⟨s.consumed, s.passed + 2⟩
  | taken {token : Token σ} (htoken : tokens[s.passed]? = some token)
    (hstar : tokens[s.passed + 1]?.any Token.isStar = true)
    (hskipped : ¬ (⟨s.consumed, s.passed + 2⟩ : State).Accepts tokens haystack)
    (haccepted : (haystack.get? s.consumed).any token.accepts = true) :
    AsksFor tokens haystack s ⟨s.consumed + 1, s.passed⟩
  | behind {token : Token σ} (htoken : tokens[s.passed]? = some token)
    (hstar : tokens[s.passed + 1]?.any Token.isStar = false)
    (haccepted : (haystack.get? s.consumed).any token.accepts = true) :
    AsksFor tokens haystack s ⟨s.consumed + 1, s.passed + 1⟩

/-- A set of states that holds the root, and with each state those that it asks for. -/
structure ClosedUnderAsking (tokens : List (Token σ)) (haystack : Haystack σ) (S : Set State) :
    Prop where
  root : ⟨0, 0⟩ ∈ S
  asked : ∀ s ∈ S, ∀ next, s.AsksFor tokens haystack next → next ∈ S

variable {tokens : List (Token σ)} {haystack : Haystack σ} {memo : Memo} {s next : State}
  {S : Set State}

theorem mem_states_of_asksFor (hs : s ∈ states haystack.length tokens.length)
    (h : s.AsksFor tokens haystack next) : next ∈ states haystack.length tokens.length := by
  cases h with
  | skipped _ hstar => exact skipped_mem_states hs hstar
  | taken _ _ _ haccepted => exact taken_mem_states hs haccepted
  | behind htoken _ haccepted => exact behind_mem_states htoken haccepted

/-- A step needs only a state that is asked for. -/
theorem asksFor_of_step_needs (hsound : memo.Sound tokens haystack)
    (hs : s ∈ states haystack.length tokens.length)
    (h : step tokens.toArray haystack memo s = .needs next) : s.AsksFor tokens haystack next := by
  cases htoken : tokens[s.passed]? with
  | none =>
    rw [step_end htoken] at h
    cases h
  | some token =>
    cases hstar : tokens[s.passed + 1]?.any Token.isStar with
    | true =>
      cases hskip : memo.verdict? ⟨s.consumed, s.passed + 2⟩ with
      | none =>
        rw [step_repeated_of_unknown htoken hstar hskip] at h
        obtain rfl := Step.needs.inj h
        exact .skipped htoken hstar
      | some skip =>
        cases skip with
        | true =>
          rw [step_repeated_of_accepted htoken hstar hskip] at h
          cases h
        | false =>
          rw [step_repeated_of_rejected htoken hstar hskip] at h
          split at h
          · next haccepted =>
            obtain ⟨-, rfl⟩ := like_eq_needs_iff.mp h
            have hrejects := hsound _ (skipped_mem_states hs hstar) _ hskip
            exact .taken htoken hstar (by simp [← hrejects]) haccepted
          · cases h
    | false =>
      rw [step_single htoken hstar] at h
      split at h
      · next haccepted =>
        obtain ⟨-, rfl⟩ := like_eq_needs_iff.mp h
        exact .behind htoken hstar haccepted
      · cases h

/-- A step decides a state only if all that the state asks for has been decided. -/
theorem decided_of_step_decided {verdict : Bool} (hsound : memo.Sound tokens haystack)
    (hs : s ∈ states haystack.length tokens.length)
    (h : step tokens.toArray haystack memo s = .decided verdict)
    (hasks : s.AsksFor tokens haystack next) : (memo.verdict? next).isSome = true := by
  cases hasks with
  | skipped htoken hstar =>
    cases hskip : memo.verdict? ⟨s.consumed, s.passed + 2⟩ with
    | none =>
      rw [step_repeated_of_unknown htoken hstar hskip] at h
      cases h
    | some skip => rfl
  | taken htoken hstar hskipped haccepted =>
    cases hskip : memo.verdict? ⟨s.consumed, s.passed + 2⟩ with
    | none =>
      rw [step_repeated_of_unknown htoken hstar hskip] at h
      cases h
    | some skip =>
      have hskip' := hsound _ (skipped_mem_states hs hstar) _ hskip
      obtain rfl : skip = false := by simpa [hskipped] using hskip'
      rw [step_repeated_of_rejected htoken hstar hskip, if_pos haccepted, like_eq_decided_iff] at h
      simp [h]
  | behind htoken hstar haccepted =>
    rw [step_single htoken hstar, if_pos haccepted, like_eq_decided_iff] at h
    simp [h]

/-- The states that waited or were decided up to now have been asked for, and all that a decided state
asks for has been decided. -/
structure Run.Lazy (run : Run) (tokens : List (Token σ)) (haystack : Haystack σ) : Prop where
  pending_asked : ∀ S, ClosedUnderAsking tokens haystack S → ∀ s ∈ run.pending, s ∈ S
  decided_asked : ∀ S, ClosedUnderAsking tokens haystack S →
    ∀ s ∈ run.memo.decidedStates haystack.length tokens.length, s ∈ S
  closed : ∀ s ∈ run.memo.decidedStates haystack.length tokens.length,
    ∀ next, s.AsksFor tokens haystack next →
      next ∈ run.memo.decidedStates haystack.length tokens.length

namespace Run

variable {run : Run} {below : List State} {evaluated : Int32} {verdict : Bool}

theorem lazy_start (c : Cache) (tokens : List (Token σ)) (haystack : Haystack σ) :
    (start (c.setup ((haystack.length + 1) * (tokens.length + 1)) (tokens.length + 1))).Lazy
      tokens haystack := by
  rw [Cache.setup_eq, start]
  refine ⟨?_, ?_, ?_⟩
  · intro S hS s hs
    rw [List.mem_singleton.mp hs]
    exact hS.root
  · simp [Memo.mem_decidedStates]
  · simp [Memo.mem_decidedStates]

namespace Lazy

theorem decide (h : Lazy ⟨s :: below, memo, evaluated⟩ tokens haystack)
    (hvalid : Valid ⟨s :: below, memo, evaluated⟩ tokens haystack)
    (hstep : step tokens.toArray haystack memo s = .decided verdict) :
    Lazy ⟨below, memo.record s verdict, evaluated + 1⟩ tokens haystack := by
  have hs : s ∈ states haystack.length tokens.length := hvalid.pending_mem s List.mem_cons_self
  have hinsert := hvalid.covers.decidedStates_record hs verdict
  refine ⟨?_, ?_, ?_⟩
  · intro S hS s' hs'
    exact h.pending_asked S hS s' (List.mem_cons_of_mem s hs')
  · intro S hS s' hs'
    rw [hinsert] at hs'
    rcases Finset.mem_insert.mp hs' with rfl | hs'
    · exact h.pending_asked S hS s' List.mem_cons_self
    · exact h.decided_asked S hS s' hs'
  · intro s' hs' next hasks
    rw [hinsert] at hs' ⊢
    rcases Finset.mem_insert.mp hs' with rfl | hs'
    -- What the new state asks for has a verdict already, or the step would have needed it.
    · have hnext := decided_of_step_decided hvalid.sound hs hstep hasks
      exact Finset.mem_insert_of_mem
        (Memo.mem_decidedStates.mpr ⟨mem_states_of_asksFor hs hasks, hnext⟩)
    · exact Finset.mem_insert_of_mem (h.closed s' hs' next hasks)

theorem push (h : Lazy ⟨s :: below, memo, evaluated⟩ tokens haystack)
    (hasks : s.AsksFor tokens haystack next) :
    Lazy ⟨next :: s :: below, memo, evaluated⟩ tokens haystack := by
  refine ⟨?_, h.decided_asked, h.closed⟩
  intro S hS s' hs'
  rcases List.mem_cons.mp hs' with rfl | hs'
  · exact hS.asked s (h.pending_asked S hS s List.mem_cons_self) _ hasks
  · exact h.pending_asked S hS s' hs'

theorem advance (h : run.Lazy tokens haystack) (hvalid : run.Valid tokens haystack) :
    (run.advance tokens.toArray haystack).Lazy tokens haystack := by
  obtain ⟨_ | ⟨s, below⟩, memo, evaluated⟩ := run
  · exact h
  · cases hstep : step tokens.toArray haystack memo s with
    | decided verdict =>
      rw [hvalid.advance_of_decided hstep]
      exact h.decide hvalid hstep
    | needs next =>
      rw [hvalid.advance_of_needs hstep]
      have hs := hvalid.pending_mem s List.mem_cons_self
      exact h.push (asksFor_of_step_needs hvalid.sound hs hstep)

/-- A run stays lazy for any number of looks. -/
theorem finish (h : run.Lazy tokens haystack) (hvalid : run.Valid tokens haystack) (fuel : Nat) :
    (run.finish tokens.toArray haystack fuel).Lazy tokens haystack := by
  induction fuel generalizing run with
  | zero => exact h
  | succ fuel ih =>
    rw [Run.finish]
    split
    · exact h
    · exact ih (h.advance hvalid) hvalid.advance

/-- When none is waiting, the decided states are the least set that is closed under asking. -/
theorem isLeast_decidedStates (h : run.Lazy tokens haystack) (hvalid : run.Valid tokens haystack)
    (hpending : run.pending = []) :
    IsLeast {S | ClosedUnderAsking tokens haystack S}
      (run.memo.decidedStates haystack.length tokens.length : Set State) := by
  obtain ⟨verdict, hroot, -⟩ := hvalid.exists_root_verdict hpending
  refine ⟨⟨?_, h.closed⟩, ?_⟩
  · exact Memo.mem_decidedStates.mpr ⟨by simp, by simp [hroot]⟩
  · intro S hS s hs
    exact h.decided_asked S hS s hs

end Lazy

end Run

/-- No state that is asked for stands at a star. -/
theorem closedUnderAsking_not_star (p : Pattern σ) (haystack : Haystack σ) :
    ClosedUnderAsking p.tokens haystack {s | p.tokens[s.passed]?.any Token.isStar = false} := by
  refine ⟨p.front_not_star, ?_⟩
  intro s hs next hasks
  cases hasks with
  | skipped _ hstar => exact p.not_star_behind_star hstar
  | taken => exact hs
  | behind _ hstar _ => exact hstar

/-- At a state that does not stand at a star, a right verdict says whether the rest of the pattern
matches the rest of the haystack. -/
theorem State.accepts_iff_matches_drop {p : Pattern σ} {haystack : Haystack σ} {s : State}
    (hstar : p.tokens[s.passed]?.any Token.isStar = false) :
    s.Accepts p.tokens haystack ↔ (p.drop s.passed hstar).Matches (haystack.toList.drop s.consumed) :=
  (p.matches_drop_iff hstar).symm

/-- Where the states with a verdict have all been asked for, each verdict says whether the rest of the
pattern matches the rest of the haystack. -/
theorem exists_rest_of_decided {p : Pattern σ} {haystack : Haystack σ}
    (hsound : memo.Sound p.tokens haystack)
    (hleast : IsLeast {S | ClosedUnderAsking p.tokens haystack S}
      (memo.decidedStates haystack.length p.tokens.length : Set State))
    (hs : s ∈ memo.decidedStates haystack.length p.tokens.length) :
    ∃ (rest : Pattern σ) (verdict : Bool), rest.tokens = p.tokens.drop s.passed ∧
      memo.verdict? s = some verdict ∧
      (verdict = true ↔ rest.Matches (haystack.toList.drop s.consumed)) := by
  have hstar := hleast.2 (closedUnderAsking_not_star p haystack) hs
  obtain ⟨hmem, hdecided⟩ := Memo.mem_decidedStates.mp hs
  obtain ⟨verdict, hverdict⟩ := Option.isSome_iff_exists.mp hdecided
  refine ⟨p.drop s.passed hstar, verdict, rfl, hverdict, ?_⟩
  rw [hsound s hmem verdict hverdict, State.accepts_iff_matches_drop hstar]

/-- When an admitted search is over, no state is waiting, what has been decided is right and is what was
asked for, and the log has its number, as far as a signed word of 32 bits holds it. -/
theorem evaluation_of_admitted (b : Backtracker σ) (cache : Cache) (haystack : Haystack σ)
    (hadmitted : checkedCellCount haystack.length b.pattern.length b.settings.tableSizeLimit =
      .ok ((haystack.length + 1) * (b.pattern.length + 1))) :
    let outcome := b.search cache haystack
    let evaluated := outcome.cache.memo.decidedStates haystack.length b.pattern.length
    outcome.cache.pending = [] ∧ outcome.cache.memo.Sound b.pattern.tokens haystack ∧
    IsLeast {S | ClosedUnderAsking b.pattern.tokens haystack S} (evaluated : Set State) ∧
    outcome.log = [.backtrackEvaluated (Int32.ofNat evaluated.card)
      ((haystack.length + 1) * (b.pattern.length + 1))] := by
  intro outcome evaluated
  let cells := (haystack.length + 1) * (b.pattern.length + 1)
  let ready := cache.setup cells (b.pattern.length + 1)
  let finished := b.run haystack ready
  have hsearch : outcome = ⟨.ok (finished.memo.verdict? ⟨0, 0⟩ == some true),
      ⟨finished.pending, finished.memo, max cache.room cells⟩,
      [.backtrackEvaluated finished.evaluated cells]⟩ :=
    b.search_of_admitted haystack cache hadmitted
  have hstart : (Run.start ready).Valid b.pattern.tokens haystack := Run.valid_start cache _ _
  have hvalid : finished.Valid b.pattern.tokens haystack := hstart.finish _
  have hlazy : finished.Lazy b.pattern.tokens haystack :=
    (Run.lazy_start cache _ _).finish hstart _
  have hpending : finished.pending = [] := pending_run hstart
  have hevaluated : evaluated = finished.memo.decidedStates haystack.length b.pattern.length := by
    simp only [evaluated, hsearch]
  refine ⟨?_, ?_, ?_, ?_⟩
  · rw [hsearch]
    exact hpending
  · rw [hsearch]
    exact hvalid.sound
  · rw [hevaluated]
    exact hlazy.isLeast_decidedStates hvalid hpending
  · rw [hsearch, hevaluated, hvalid.evaluated_eq]
    rfl

/-- A search that returns a verdict was admitted, to a table whose cells a word counts. -/
theorem admitted_of_returns {b : Backtracker σ} {cache : Cache} {haystack : Haystack σ}
    {outcome : Outcome Cache} {verdict : Bool} (hreturns : b.searchInRoom cache haystack = .ok outcome)
    (hverdict : outcome.verdict = .ok verdict) :
    b.search cache haystack = outcome ∧
      checkedCellCount haystack.length b.pattern.length b.settings.tableSizeLimit =
        .ok ((haystack.length + 1) * (b.pattern.length + 1)) := by
  obtain ⟨hroom, rfl⟩ := (searchInRoom_eq_ok_iff _).mp hreturns
  refine ⟨rfl, ?_⟩
  cases hchecked : checkedCellCount haystack.length b.pattern.length b.settings.tableSizeLimit with
  | error refusal =>
    rw [search_of_refused b haystack cache hchecked] at hverdict
    cases hverdict
  | ok cells =>
    rw [eq_cellCount_of_checked hchecked, cellCount_of_le (cells_le_wordMax_of_room hroom hchecked)]

/-- A number below half of the words of 32 bits, and no other, is what it is as a signed word. -/
theorem toInt_ofNat_eq_iff (n : Nat) : (Int32.ofNat n).toInt = n ↔ n < 2 ^ 31 := by
  constructor
  · intro h
    have hlt := (Int32.ofNat n).toInt_lt
    omega
  · exact Int32.toInt_ofNat_of_lt

/-- When a search has returned a verdict, no state is waiting and the states with a verdict are the least
set that holds the root and with each state those that it asks for. Each verdict says whether the haystack
from there on matches the pattern from there on. There is at most one of these states for each cell, and
the number that is logged is theirs exactly if a signed word of 32 bits holds it. -/
theorem search_evaluates_what_is_asked_for (b : Backtracker σ) (cache : Cache)
    (haystack : Haystack σ) (outcome : Outcome Cache) (verdict : Bool)
    (hreturns : b.searchInRoom cache haystack = .ok outcome)
    (hverdict : outcome.verdict = .ok verdict) :
    let cells := (haystack.length + 1) * (b.pattern.length + 1)
    let evaluated := outcome.cache.memo.decidedStates haystack.length b.pattern.length
    outcome.cache.pending = [] ∧
    IsLeast {S | ClosedUnderAsking b.pattern.tokens haystack S} (evaluated : Set State) ∧
    (∀ s ∈ evaluated, ∃ (rest : Pattern σ) (verdict : Bool),
      rest.tokens = b.pattern.tokens.drop s.passed ∧
      outcome.cache.memo.verdict? s = some verdict ∧
      (verdict = true ↔ rest.Matches (haystack.toList.drop s.consumed))) ∧
    evaluated.card ≤ cells ∧
    ∃ logged, outcome.log = [.backtrackEvaluated logged cells] ∧
      logged.toInt = (evaluated.card : Int).bmod (2 ^ 32) ∧
      (logged.toInt = evaluated.card ↔ evaluated.card < 2 ^ 31) := by
  intro cells evaluated
  obtain ⟨rfl, hadmitted⟩ := admitted_of_returns hreturns hverdict
  obtain ⟨hpending, hsound, hleast, hlog⟩ := b.evaluation_of_admitted cache haystack hadmitted
  refine ⟨hpending, hleast, ?_, ?_, Int32.ofNat evaluated.card, hlog, ?_, ?_⟩
  · intro s hs
    exact exists_rest_of_decided hsound hleast hs
  · exact (Finset.card_filter_le _ _).trans_eq (card_states _ _)
  · exact Int32.toInt_ofNat'
  · exact toInt_ofNat_eq_iff evaluated.card

/-- Five of twelve states are asked for: behind the first symbol the star is passed over, so the state
in which it takes the second one is not among them. -/
theorem search_evaluates_what_is_asked_for_five :
    let b : Backtracker UInt8 := ⟨{ tableSizeLimit? := some (some 12) }, ⟨[.lit 97, .star, .lit 98], rfl⟩⟩
    let cache : Cache := ⟨[⟨7, 2⟩, ⟨0, 0⟩], .filled 5 40 (some false), 40⟩
    let haystack : Haystack UInt8 := .ofList [97, 98]
    ∃ outcome, b.searchInRoom cache haystack = .ok outcome ∧ outcome.verdict = .ok true ∧
      IsLeast {S | ClosedUnderAsking b.pattern.tokens haystack S}
        (({⟨0, 0⟩, ⟨0, 2⟩, ⟨1, 0⟩, ⟨1, 2⟩, ⟨2, 3⟩} : Finset State) : Set State) ∧
      outcome.log = [.backtrackEvaluated 5 12] := by
  intro b cache haystack
  have hreturns : b.searchInRoom cache haystack = .ok (b.search cache haystack) :=
    b.searchInRoom_of_le cache haystack (by decide)
  have hverdict : (b.search cache haystack).verdict = .ok true := by decide +kernel
  obtain ⟨-, hleast, -, -, logged, hlog, -, hexact⟩ :=
    search_evaluates_what_is_asked_for b cache haystack _ true hreturns hverdict
  have hevaluated :
      (b.search cache haystack).cache.memo.decidedStates haystack.length b.pattern.length =
        {⟨0, 0⟩, ⟨0, 2⟩, ⟨1, 0⟩, ⟨1, 2⟩, ⟨2, 3⟩} := by decide +kernel
  rw [hevaluated] at hleast hexact
  have hfive : logged = 5 := Int32.toInt_inj.mp (hexact.mpr (by decide))
  exact ⟨_, hreturns, hverdict, hleast, hfive ▸ hlog⟩

end StarMatch.Backtracker
