import StarMatch.Proofs.Search.Verdict

/-!
# Runs of the backtracker

From the start of a search to its end, the states that wait are different states without a verdict,
each further on than the one below it; all verdicts are right; and the root waits until it has its
verdict. Each look at the front either puts one more state in front or decides the one there. As
waiting and decided states are different states of the table, a run is over after at most twice as
many looks as the table has cells, and then the root has been decided.
-/

namespace StarMatch.Backtracker

universe u

variable {σ : Type u} [BEq σ]

/-- What holds of a run between any two looks at its front. -/
structure Run.Valid (run : Run) (tokens : List (Token σ)) (haystack : Haystack σ) : Prop where
  covers : run.memo.Covers haystack.length tokens.length
  sound : run.memo.Sound tokens haystack
  pending_mem : ∀ s ∈ run.pending, s ∈ states haystack.length tokens.length
  pending_undecided : ∀ s ∈ run.pending, run.memo.verdict? s = none
  ordered : run.pending.Pairwise fun above below => below.progress < above.progress
  evaluated_eq :
    run.evaluated = Int32.ofNat (run.memo.decidedStates haystack.length tokens.length).card
  rooted : ⟨0, 0⟩ ∈ run.pending ∨ (run.memo.verdict? ⟨0, 0⟩).isSome

namespace Run

variable {tokens : List (Token σ)} {haystack : Haystack σ} {run : Run} {memo : Memo} {s next : State}
  {below : List State} {evaluated : Int32} {verdict : Bool}

/-- A search starts with the root alone in front of a grid without verdicts. -/
theorem valid_start (c : Cache) (tokens : List (Token σ)) (haystack : Haystack σ) :
    (start (c.setup ((haystack.length + 1) * (tokens.length + 1)) (tokens.length + 1))).Valid
      tokens haystack := by
  rw [Cache.setup_eq, start]
  refine ⟨Grid.hasShape_filled _ _ _, ?_, ?_, ?_, ?_, ?_, ?_⟩
  · intro s _ verdict hverdict
    rw [Memo.verdict?_filled] at hverdict
    cases hverdict
  · simp
  · simp
  · simp
  · simp [Memo.decidedStates]
  · exact .inl List.mem_cons_self

namespace Valid

theorem ne_of_mem_below (h : Valid ⟨s :: below, memo, evaluated⟩ tokens haystack) :
    ∀ s' ∈ below, s ≠ s' := by
  intro s' hs' heq
  have hlt := (List.pairwise_cons.mp h.ordered).1 s' hs'
  rw [heq] at hlt
  exact Nat.lt_irrefl _ hlt

/-- A state in front has no verdict yet, so it counts once when it is decided. -/
theorem card_decide (h : Valid ⟨s :: below, memo, evaluated⟩ tokens haystack) (verdict : Bool) :
    ((memo.record s verdict).decidedStates haystack.length tokens.length).card =
      (memo.decidedStates haystack.length tokens.length).card + 1 := by
  have hundecided : memo.verdict? s = none := h.pending_undecided s List.mem_cons_self
  have hnew : s ∉ memo.decidedStates haystack.length tokens.length := by
    simp [Memo.mem_decidedStates, hundecided]
  rw [h.covers.decidedStates_record (h.pending_mem s List.mem_cons_self) verdict,
    Finset.card_insert_of_notMem hnew]

/-- The state in front is decided and dropped. -/
theorem decide (h : Valid ⟨s :: below, memo, evaluated⟩ tokens haystack)
    (hstep : step tokens.toArray haystack memo s = .decided verdict) :
    Valid ⟨below, memo.record s verdict, evaluated + 1⟩ tokens haystack := by
  have hs : s ∈ states haystack.length tokens.length := h.pending_mem s List.mem_cons_self
  have hread : ∀ s' ∈ states haystack.length tokens.length,
      (memo.record s verdict).verdict? s' = if s = s' then some verdict else memo.verdict? s' :=
    fun s' hs' => h.covers.verdict?_record hs hs' verdict
  refine ⟨h.covers.record s verdict, ?_, ?_, ?_, ?_, ?_, ?_⟩
  -- The verdict that is new is right by the step, and all others are as they were.
  · intro s' hs' verdict' hverdict'
    rw [hread s' hs'] at hverdict'
    split at hverdict'
    · next heq =>
      cases hverdict'
      exact heq ▸ accepts_iff_of_step_decided h.sound hs hstep
    · exact h.sound s' hs' verdict' hverdict'
  · exact fun s' hs' => h.pending_mem s' (List.mem_cons_of_mem s hs')
  · intro s' hs'
    have hs'' := List.mem_cons_of_mem s hs'
    rw [hread s' (h.pending_mem s' hs''), if_neg (h.ne_of_mem_below s' hs')]
    exact h.pending_undecided s' hs''
  · exact (List.pairwise_cons.mp h.ordered).2
  -- The count goes up by one wherever it stands, and may wrap around as it does.
  · rw [h.card_decide verdict, Int32.ofNat_add]
    exact congrArg (· + 1) h.evaluated_eq
  · rcases h.rooted with hroot | hroot
    -- If the root itself was in front, it now has its verdict.
    · rcases List.mem_cons.mp hroot with rfl | hroot
      · exact .inr (by rw [hread _ hs, if_pos rfl]; rfl)
      · exact .inl hroot
    · have hmem : (⟨0, 0⟩ : State) ∈ states haystack.length tokens.length := by simp
      refine .inr ?_
      rw [hread _ hmem]
      split
      · rfl
      · exact hroot

/-- The state that is needed first is put in front. -/
theorem push (h : Valid ⟨s :: below, memo, evaluated⟩ tokens haystack)
    (hstep : step tokens.toArray haystack memo s = .needs next) :
    Valid ⟨next :: s :: below, memo, evaluated⟩ tokens haystack := by
  obtain ⟨hnext, hundecided, hlt⟩ :=
    mem_states_of_step_needs (h.pending_mem s List.mem_cons_self) hstep
  refine ⟨h.covers, h.sound, ?_, ?_, ?_, h.evaluated_eq, ?_⟩
  · intro s' hs'
    rcases List.mem_cons.mp hs' with rfl | hs'
    · exact hnext
    · exact h.pending_mem s' hs'
  · intro s' hs'
    rcases List.mem_cons.mp hs' with rfl | hs'
    · exact hundecided
    · exact h.pending_undecided s' hs'
  · refine List.pairwise_cons.mpr ⟨fun s' hs' => ?_, h.ordered⟩
    rcases List.mem_cons.mp hs' with rfl | hs'
    · exact hlt
    · exact Nat.lt_trans ((List.pairwise_cons.mp h.ordered).1 s' hs') hlt
  · exact h.rooted.imp (List.mem_cons_of_mem next) id

/-- A state in front that can be decided is decided. It has no verdict yet, so the early drop of a
state that has one is never taken. -/
theorem advance_of_decided (h : Valid ⟨s :: below, memo, evaluated⟩ tokens haystack)
    (hstep : step tokens.toArray haystack memo s = .decided verdict) :
    Run.advance tokens.toArray haystack ⟨s :: below, memo, evaluated⟩ =
      ⟨below, memo.record s verdict, evaluated + 1⟩ := by
  have hundecided : memo.verdict? s = none := h.pending_undecided s List.mem_cons_self
  simp only [Run.advance, hundecided, hstep]

theorem advance_of_needs (h : Valid ⟨s :: below, memo, evaluated⟩ tokens haystack)
    (hstep : step tokens.toArray haystack memo s = .needs next) :
    Run.advance tokens.toArray haystack ⟨s :: below, memo, evaluated⟩ =
      ⟨next :: s :: below, memo, evaluated⟩ := by
  have hundecided : memo.verdict? s = none := h.pending_undecided s List.mem_cons_self
  simp only [Run.advance, hundecided, hstep]

theorem advance (h : run.Valid tokens haystack) :
    (run.advance tokens.toArray haystack).Valid tokens haystack := by
  obtain ⟨_ | ⟨s, below⟩, memo, evaluated⟩ := run
  · exact h
  · cases hstep : step tokens.toArray haystack memo s with
    | decided verdict =>
      rw [h.advance_of_decided hstep]
      exact h.decide hstep
    | needs next =>
      rw [h.advance_of_needs hstep]
      exact h.push hstep

end Valid

/-- How many looks at its front a run has taken, counting the root as one. -/
def looks (run : Run) (haystackLength patternLength : Nat) : Nat :=
  run.pending.length + 2 * (run.memo.decidedStates haystackLength patternLength).card

omit [BEq σ] in
theorem looks_start (c : Cache) (tokens : List (Token σ)) (haystack : Haystack σ) :
    (start (c.setup ((haystack.length + 1) * (tokens.length + 1)) (tokens.length + 1))).looks
      haystack.length tokens.length = 1 := by
  rw [Cache.setup_eq, start]
  simp [looks, Memo.decidedStates]

theorem Valid.looks_advance (h : run.Valid tokens haystack) (hpending : run.pending ≠ []) :
    (run.advance tokens.toArray haystack).looks haystack.length tokens.length =
      run.looks haystack.length tokens.length + 1 := by
  obtain ⟨_ | ⟨s, below⟩, memo, evaluated⟩ := run
  · exact absurd rfl hpending
  · cases hstep : step tokens.toArray haystack memo s with
    | decided verdict =>
      rw [h.advance_of_decided hstep]
      simp only [looks, List.length_cons, h.card_decide verdict]
      omega
    | needs next =>
      rw [h.advance_of_needs hstep]
      simp only [looks, List.length_cons]
      omega

/-- Waiting and decided states are different states of the table. -/
theorem Valid.pending_add_decided_le (h : run.Valid tokens haystack) :
    run.pending.length + (run.memo.decidedStates haystack.length tokens.length).card ≤
      (haystack.length + 1) * (tokens.length + 1) := by
  have hnodup : run.pending.Nodup := h.ordered.imp fun hlt heq => by
    rw [heq] at hlt
    exact Nat.lt_irrefl _ hlt
  have hdisjoint :
      Disjoint run.pending.toFinset (run.memo.decidedStates haystack.length tokens.length) := by
    rw [Finset.disjoint_left]
    intro s hs hdecided
    rw [List.mem_toFinset] at hs
    rw [Memo.mem_decidedStates, h.pending_undecided s hs] at hdecided
    exact absurd hdecided.2 (by simp)
  have hsubset : run.pending.toFinset ∪ run.memo.decidedStates haystack.length tokens.length ⊆
      states haystack.length tokens.length := by
    refine Finset.union_subset (fun s hs => ?_) (Finset.filter_subset _ _)
    exact h.pending_mem s (List.mem_toFinset.mp hs)
  calc run.pending.length + (run.memo.decidedStates haystack.length tokens.length).card
      = (run.pending.toFinset ∪ run.memo.decidedStates haystack.length tokens.length).card := by
        rw [Finset.card_union_of_disjoint hdisjoint, List.toFinset_card_of_nodup hnodup]
    _ ≤ (states haystack.length tokens.length).card := Finset.card_le_card hsubset
    _ = (haystack.length + 1) * (tokens.length + 1) := card_states _ _

/-- A run stays valid for any number of looks. -/
theorem Valid.finish (h : run.Valid tokens haystack) (fuel : Nat) :
    (run.finish tokens.toArray haystack fuel).Valid tokens haystack := by
  induction fuel generalizing run with
  | zero => exact h
  | succ fuel ih =>
    rw [Run.finish]
    split
    · exact h
    · exact ih h.advance

/-- A run with enough looks left ends with no state waiting. A run that has not ended cannot have
taken more looks than twice the number of cells. -/
theorem Valid.pending_finish (h : run.Valid tokens haystack) {fuel : Nat}
    (hfuel : 2 * ((haystack.length + 1) * (tokens.length + 1)) <
      run.looks haystack.length tokens.length + fuel) :
    (run.finish tokens.toArray haystack fuel).pending = [] := by
  induction fuel generalizing run with
  | zero =>
    have hcells := h.pending_add_decided_le
    simp only [looks] at hfuel
    omega
  | succ fuel ih =>
    rw [Run.finish]
    split
    · next hpending => exact hpending
    · next hpending =>
      have hlooks := h.looks_advance (by simp [hpending])
      exact ih h.advance (by omega)

/-- A run that has ended has the right verdict for the root. -/
theorem Valid.exists_root_verdict (h : run.Valid tokens haystack) (hpending : run.pending = []) :
    ∃ verdict, run.memo.verdict? ⟨0, 0⟩ = some verdict ∧
      (verdict = true ↔ (⟨0, 0⟩ : State).Accepts tokens haystack) := by
  have hroot : (run.memo.verdict? ⟨0, 0⟩).isSome := by
    rcases h.rooted with hroot | hroot
    · simp [hpending] at hroot
    · exact hroot
  obtain ⟨verdict, hverdict⟩ := Option.isSome_iff_exists.mp hroot
  exact ⟨verdict, hverdict, h.sound _ (by simp) _ hverdict⟩

end Run

end StarMatch.Backtracker
