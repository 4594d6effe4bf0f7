import Mathlib.Data.List.Chain
import StarMatch.Proofs.Search.Evaluation

/-!
# The states that wait

A state waits for the one above it: looked at again now, it would need just that state, whatever has
been decided since it was left. For what a step has looked up before it names a state was decided then
and stays so, and the state it names is not decided before it has come to the front. Each state is
further on than the one below it, so no more of them can wait than there are symbols and tokens to get
past, and one.
-/

namespace StarMatch.Backtracker

universe u

variable {σ : Type u} [BEq σ] {tokens : List (Token σ)} {haystack : Haystack σ} {memo : Memo}
  {s state next : State} {verdict : Bool}

/-- A state that needs another one still needs it when a third one, undecided until then, has been
decided. -/
theorem step_record_of_needs (hcovers : memo.Covers haystack.length tokens.length)
    (hs : s ∈ states haystack.length tokens.length) (hundecided : memo.verdict? s = none)
    (hstate : state ∈ states haystack.length tokens.length)
    (hstep : step tokens.toArray haystack memo state = .needs next) (hne : s ≠ next) :
    step tokens.toArray haystack (memo.record s verdict) state = .needs next := by
  have hread : ∀ s' ∈ states haystack.length tokens.length, s ≠ s' →
      (memo.record s verdict).verdict? s' = memo.verdict? s' := by
    intro s' hs' hne'
    rw [hcovers.verdict?_record hs hs', if_neg hne']
  obtain ⟨hnext, hnone, -⟩ := mem_states_of_step_needs hstate hstep
  have hnone' : (memo.record s verdict).verdict? next = none := (hread next hnext hne).trans hnone
  cases htoken : tokens[state.passed]? with
  | none =>
    rw [step_end htoken] at hstep
    cases hstep
  | some token =>
    cases hstar : tokens[state.passed + 1]?.any Token.isStar with
    | true =>
      cases hskip : memo.verdict? ⟨state.consumed, state.passed + 2⟩ with
      | none =>
        rw [step_repeated_of_unknown htoken hstar hskip] at hstep
        obtain rfl := Step.needs.inj hstep
        exact step_repeated_of_unknown htoken hstar hnone'
      | some skip =>
        cases skip with
        | true =>
          rw [step_repeated_of_accepted htoken hstar hskip] at hstep
          cases hstep
        | false =>
          -- The state that skips the atom was decided before, so it is not the new one.
          have hother : s ≠ ⟨state.consumed, state.passed + 2⟩ := by
            rintro rfl
            rw [hundecided] at hskip
            cases hskip
          have hskip' := (hread _ (skipped_mem_states hstate hstar) hother).trans hskip
          rw [step_repeated_of_rejected htoken hstar hskip] at hstep
          rw [step_repeated_of_rejected htoken hstar hskip']
          split at hstep
          · obtain ⟨-, rfl⟩ := like_eq_needs_iff.mp hstep
            rw [if_pos ‹_›, like_eq_needs_iff]
            exact ⟨hnone', rfl⟩
          · cases hstep
    | false =>
      rw [step_single htoken hstar] at hstep ⊢
      split at hstep
      · obtain ⟨-, rfl⟩ := like_eq_needs_iff.mp hstep
        rw [if_pos ‹_›, like_eq_needs_iff]
        exact ⟨hnone', rfl⟩
      · cases hstep

namespace Run

variable {run : Run} {below : List State} {evaluated : Int32}

/-- Each waiting state, looked at now, would need the one above it. -/
def Linked (run : Run) (tokens : List (Token σ)) (haystack : Haystack σ) : Prop :=
  run.pending.IsChain fun above below =>
    step tokens.toArray haystack run.memo below = .needs above

theorem linked_start (c : Cache) (cells stride : Nat) (tokens : List (Token σ))
    (haystack : Haystack σ) : (start (c.setup cells stride)).Linked tokens haystack :=
  List.isChain_singleton _

namespace Linked

theorem decide (h : Linked ⟨s :: below, memo, evaluated⟩ tokens haystack)
    (hvalid : Valid ⟨s :: below, memo, evaluated⟩ tokens haystack) :
    Linked ⟨below, memo.record s verdict, evaluated + 1⟩ tokens haystack := by
  refine List.IsChain.imp_of_mem_imp ?_ h.tail
  intro above state habove hstate hstep
  exact step_record_of_needs hvalid.covers (hvalid.pending_mem s List.mem_cons_self)
    (hvalid.pending_undecided s List.mem_cons_self)
    (hvalid.pending_mem state (List.mem_cons_of_mem s hstate)) hstep
    (hvalid.ne_of_mem_below above habove)

theorem push (h : Linked ⟨s :: below, memo, evaluated⟩ tokens haystack)
    (hstep : step tokens.toArray haystack memo s = .needs next) :
    Linked ⟨next :: s :: below, memo, evaluated⟩ tokens haystack :=
  List.isChain_cons_cons.mpr ⟨hstep, h⟩

theorem advance (h : run.Linked tokens haystack) (hvalid : run.Valid tokens haystack) :
    (run.advance tokens.toArray haystack).Linked tokens haystack := by
  obtain ⟨_ | ⟨s, below⟩, memo, evaluated⟩ := run
  · exact h
  · cases hstep : step tokens.toArray haystack memo s with
    | decided verdict =>
      rw [hvalid.advance_of_decided hstep]
      exact h.decide hvalid
    | needs next =>
      rw [hvalid.advance_of_needs hstep]
      exact h.push hstep

/-- A run stays linked for any number of looks. -/
theorem finish (h : run.Linked tokens haystack) (hvalid : run.Valid tokens haystack) (fuel : Nat) :
    (run.finish tokens.toArray haystack fuel).Linked tokens haystack := by
  induction fuel generalizing run with
  | zero => exact h
  | succ fuel ih =>
    rw [Run.finish]
    split
    · exact h
    · exact ih (h.advance hvalid) hvalid.advance

end Linked

/-- The states that wait are at different distances from the root, and none is further from it than
the last state of all. -/
theorem Valid.length_pending_le (h : run.Valid tokens haystack) :
    run.pending.length ≤ haystack.length + tokens.length + 1 := by
  have hdistances : (run.pending.map State.progress).Nodup :=
    List.pairwise_map.mpr (h.ordered.imp fun hlt => Nat.ne_of_gt hlt)
  have hsubset : (run.pending.map State.progress).toFinset ⊆
      Finset.range (haystack.length + tokens.length + 1) := by
    intro distance hdistance
    rw [List.mem_toFinset] at hdistance
    obtain ⟨s, hs, rfl⟩ := List.mem_map.mp hdistance
    obtain ⟨hconsumed, hpassed⟩ := mem_states.mp (h.pending_mem s hs)
    rw [Finset.mem_range, State.progress]
    omega
  calc run.pending.length
      = (run.pending.map State.progress).toFinset.card := by
        rw [List.toFinset_card_of_nodup hdistances, List.length_map]
    _ ≤ (Finset.range (haystack.length + tokens.length + 1)).card := Finset.card_le_card hsubset
    _ = haystack.length + tokens.length + 1 := Finset.card_range _

/-- The order in which states wait, the front of the list being the top. -/
structure Stacked (run : Run) (tokens : List (Token σ)) (haystack : Haystack σ) : Prop where
  /-- Each state is further on than those below it. -/
  ascending : run.pending.Pairwise fun above below =>
    below.consumed + below.passed < above.consumed + above.passed
  /-- Each state is the one that the state below it needs. -/
  linked : run.pending.IsChain fun above below =>
    step tokens.toArray haystack run.memo below = .needs above
  undecided : ∀ s ∈ run.pending, run.memo.verdict? s = none
  length_le : run.pending.length ≤ haystack.length + tokens.length + 1

theorem Valid.stacked (h : run.Valid tokens haystack) (hlinked : run.Linked tokens haystack) :
    run.Stacked tokens haystack :=
  ⟨h.ordered, hlinked, h.pending_undecided, h.length_pending_le⟩

end Run

end StarMatch.Backtracker
