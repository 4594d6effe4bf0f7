import StarMatch.Proofs.Search.CheckedBacktrack
import StarMatch.Proofs.Search.Waiting

/-!
# The looks of a search

A search is a sequence of looks at the state in front, and each of them either decides that state or
puts one more in front of it. A state that is put in front neither waits nor has a verdict, and a state
that is decided has none, so no state is put in front twice or decided twice and none is ever dropped
for having its verdict already. As each state that is put in front is decided once, the number of looks
is known from the number of states decided.
-/

namespace StarMatch.Backtracker

universe u

variable {σ : Type u}

/-- What a look at the state in front does. -/
inductive Look where
  /-- The state is dropped, as it has its verdict. -/
  | drops (s : State)
  /-- The state gets its verdict and is dropped. -/
  | decides (s : State) (verdict : Bool)
  /-- The state waits for another one, which is put in front. -/
  | pushes (next : State)
  deriving DecidableEq, Repr

namespace Look

/-- The state that is put in front. -/
def pushed? : Look → Option State
  | pushes next => some next
  | _ => none

/-- The state that gets its verdict. -/
def decided? : Look → Option State
  | decides s _ => some s
  | _ => none

end Look

namespace Run

/-- The run after a look that does this. -/
def after (run : Run) : Look → Run
  | .drops _ => { run with pending := run.pending.tail }
  | .decides s verdict => ⟨run.pending.tail, run.memo.record s verdict, run.evaluated + 1⟩
  | .pushes next => { run with pending := next :: run.pending }

variable [BEq σ]

section Definitions

variable (tokens : Array (Token σ)) (haystack : Haystack σ)

/-- What the next look does, if a state is waiting. -/
def look? : Run → Option Look
  | ⟨[], _, _⟩ => none
  | ⟨s :: _, memo, _⟩ =>
    match memo.verdict? s with
    | some _ => some (.drops s)
    | none =>
      match step tokens haystack memo s with
      | .decided verdict => some (.decides s verdict)
      | .needs next => some (.pushes next)

/-- What the looks do, in order, until no state is waiting, at most `fuel` of them. -/
def trace : Nat → Run → List Look
  | 0, _ => []
  | fuel + 1, run =>
    match run.look? tokens haystack with
    | none => []
    | some look => look :: trace fuel (run.after look)

end Definitions

section Trace

variable {tokens : Array (Token σ)} {haystack : Haystack σ} {run : Run}

theorem look?_of_pending_eq_nil (h : run.pending = []) : run.look? tokens haystack = none := by
  obtain ⟨pending, memo, evaluated⟩ := run
  obtain rfl : pending = [] := h
  rfl

variable (tokens haystack) in
theorem exists_look_of_pending_ne_nil (h : run.pending ≠ []) :
    ∃ look, run.look? tokens haystack = some look := by
  obtain ⟨_ | ⟨s, below⟩, memo, evaluated⟩ := run
  · exact absurd rfl h
  · rw [look?]
    cases memo.verdict? s with
    | some verdict => exact ⟨_, rfl⟩
    | none => cases step tokens haystack memo s <;> exact ⟨_, rfl⟩

theorem advance_eq_after {look : Look} (h : run.look? tokens haystack = some look) :
    run.advance tokens haystack = run.after look := by
  obtain ⟨_ | ⟨s, below⟩, memo, evaluated⟩ := run
  · cases h
  · cases hverdict : memo.verdict? s with
    | some verdict =>
      simp only [look?, hverdict, Option.some.injEq] at h
      simp only [advance, hverdict, ← h, after, List.tail_cons]
    | none =>
      cases hstep : step tokens haystack memo s with
      | decided verdict =>
        simp only [look?, hverdict, hstep, Option.some.injEq] at h
        simp only [advance, hverdict, hstep, ← h, after, List.tail_cons]
      | needs next =>
        simp only [look?, hverdict, hstep, Option.some.injEq] at h
        simp only [advance, hverdict, hstep, ← h, after]

theorem trace_of_pending_eq_nil (h : run.pending = []) (fuel : Nat) :
    run.trace tokens haystack fuel = [] := by
  cases fuel with
  | zero => rfl
  | succ fuel => rw [trace, look?_of_pending_eq_nil h]

theorem trace_of_look {look : Look} (h : run.look? tokens haystack = some look) (fuel : Nat) :
    run.trace tokens haystack (fuel + 1) =
      look :: (run.advance tokens haystack).trace tokens haystack fuel := by
  rw [trace, h, advance_eq_after h]

/-- A run that is over stays as it is. -/
theorem finish_of_pending_eq_nil (h : run.pending = []) (fuel : Nat) :
    run.finish tokens haystack fuel = run := by
  cases fuel with
  | zero => rfl
  | succ fuel => simp only [finish, h]

theorem finish_succ (h : run.pending ≠ []) (fuel : Nat) :
    run.finish tokens haystack (fuel + 1) =
      (run.advance tokens haystack).finish tokens haystack fuel := by
  rw [finish]
  split
  · next hpending => exact absurd hpending h
  · rfl

/-- The looks that are listed are those that lead to the run. -/
theorem finish_eq_foldl_after (fuel : Nat) :
    run.finish tokens haystack fuel = (run.trace tokens haystack fuel).foldl after run := by
  induction fuel generalizing run with
  | zero => rfl
  | succ fuel ih =>
    by_cases hpending : run.pending = []
    · rw [finish_of_pending_eq_nil hpending, trace_of_pending_eq_nil hpending, List.foldl_nil]
    · obtain ⟨look, hlook⟩ := exists_look_of_pending_ne_nil tokens haystack hpending
      rw [finish_succ hpending, trace_of_look hlook, List.foldl_cons, ih, advance_eq_after hlook]

/-- A run that is over after some looks is the same after more of them. -/
theorem finish_eq_of_le {n m : Nat} (h : (run.finish tokens haystack n).pending = []) (hle : n ≤ m) :
    run.finish tokens haystack m = run.finish tokens haystack n := by
  induction n generalizing run m with
  | zero => exact finish_of_pending_eq_nil h m
  | succ n ih =>
    by_cases hpending : run.pending = []
    · rw [finish_of_pending_eq_nil hpending, finish_of_pending_eq_nil hpending]
    · obtain ⟨m, rfl⟩ : ∃ m', m = m' + 1 := ⟨m - 1, by omega⟩
      rw [finish_succ hpending] at h ⊢
      rw [finish_succ hpending]
      exact ih h (Nat.le_of_succ_le_succ hle)

/-- Fewer looks are the first of more looks. -/
theorem trace_eq_take {n m : Nat} (hle : n ≤ m) :
    run.trace tokens haystack n = (run.trace tokens haystack m).take n := by
  induction n generalizing run m with
  | zero => rfl
  | succ n ih =>
    by_cases hpending : run.pending = []
    · rw [trace_of_pending_eq_nil hpending, trace_of_pending_eq_nil hpending, List.take_nil]
    · obtain ⟨m, rfl⟩ : ∃ m', m = m' + 1 := ⟨m - 1, by omega⟩
      obtain ⟨look, hlook⟩ := exists_look_of_pending_ne_nil tokens haystack hpending
      rw [trace_of_look hlook, trace_of_look hlook, List.take_succ_cons,
        ih (Nat.le_of_succ_le_succ hle)]

/-- There is a look for each round at whose start a state is waiting. -/
theorem length_trace_of_pending_ne_nil {n : Nat}
    (h : (run.finish tokens haystack n).pending ≠ []) :
    (run.trace tokens haystack (n + 1)).length = n + 1 := by
  induction n generalizing run with
  | zero =>
    replace h : run.pending ≠ [] := h
    obtain ⟨look, hlook⟩ := exists_look_of_pending_ne_nil tokens haystack h
    rw [trace_of_look hlook]
    rfl
  | succ n ih =>
    by_cases hpending : run.pending = []
    · rw [finish_of_pending_eq_nil hpending] at h
      exact absurd hpending h
    · obtain ⟨look, hlook⟩ := exists_look_of_pending_ne_nil tokens haystack hpending
      rw [finish_succ hpending] at h
      rw [trace_of_look hlook, List.length_cons, ih h]

end Trace

section Once

variable {tokens : List (Token σ)} {haystack : Haystack σ} {run : Run} {memo : Memo}
  {s next : State} {below : List State} {evaluated : Int32} {verdict : Bool} {looks : List Look}

/-- The looks drop no state; those that they put in front are different states, none of which waited
or had its verdict before; and those that they decide are different states without a verdict. -/
structure Once (run : Run) (looks : List Look) : Prop where
  no_drop : ∀ s, .drops s ∉ looks
  pushed_nodup : (looks.filterMap Look.pushed?).Nodup
  pushed_new : ∀ s ∈ looks.filterMap Look.pushed?, s ∉ run.pending ∧ run.memo.verdict? s = none
  decided_nodup : (looks.filterMap Look.decided?).Nodup
  decided_new : ∀ s ∈ looks.filterMap Look.decided?, run.memo.verdict? s = none

omit [BEq σ] in
theorem once_nil (run : Run) : run.Once [] :=
  ⟨by simp, by simp, by simp, by simp, by simp⟩

omit [BEq σ] in
/-- What has no verdict when another state is decided had none before. -/
theorem verdict?_eq_none_of_record {s' : State}
    (h : (memo.record s verdict).verdict? s' = none) : memo.verdict? s' = none := by
  rw [Memo.verdict?, Memo.record, Grid.get?_set] at h
  split at h
  · cases h
  · exact h

theorem Once.decide (h : Once ⟨below, memo.record s verdict, evaluated + 1⟩ looks)
    (hvalid : Valid ⟨s :: below, memo, evaluated⟩ tokens haystack) :
    Once ⟨s :: below, memo, evaluated⟩ (.decides s verdict :: looks) := by
  have hs : s ∈ states haystack.length tokens.length := hvalid.pending_mem s List.mem_cons_self
  have hread : (memo.record s verdict).verdict? s = some verdict := by
    rw [hvalid.covers.verdict?_record hs hs, if_pos rfl]
  refine ⟨?_, h.pushed_nodup, ?_, ?_, ?_⟩
  · intro s' hs'
    rcases List.mem_cons.mp hs' with heq | hs'
    · cases heq
    · exact h.no_drop s' hs'
  · intro s' hs'
    obtain ⟨hwaiting, hnone⟩ := h.pushed_new s' hs'
    refine ⟨?_, verdict?_eq_none_of_record hnone⟩
    rw [List.mem_cons, not_or]
    refine ⟨?_, hwaiting⟩
    rintro rfl
    rw [hread] at hnone
    cases hnone
  · refine List.nodup_cons.mpr ⟨?_, h.decided_nodup⟩
    intro hagain
    have hnone := h.decided_new s hagain
    rw [hread] at hnone
    cases hnone
  · intro s' hs'
    rcases List.mem_cons.mp hs' with rfl | hs'
    · exact hvalid.pending_undecided _ List.mem_cons_self
    · exact verdict?_eq_none_of_record (h.decided_new s' hs')

theorem Once.push (h : Once ⟨next :: s :: below, memo, evaluated⟩ looks)
    (hvalid : Valid ⟨next :: s :: below, memo, evaluated⟩ tokens haystack) :
    Once ⟨s :: below, memo, evaluated⟩ (.pushes next :: looks) := by
  refine ⟨?_, ?_, ?_, h.decided_nodup, h.decided_new⟩
  · intro s' hs'
    rcases List.mem_cons.mp hs' with heq | hs'
    · cases heq
    · exact h.no_drop s' hs'
  · exact List.nodup_cons.mpr
      ⟨fun hagain => (h.pushed_new next hagain).1 List.mem_cons_self, h.pushed_nodup⟩
  · intro s' hs'
    rcases List.mem_cons.mp hs' with rfl | hs'
    · exact ⟨fun hwaiting => hvalid.ne_of_mem_below _ hwaiting rfl,
        hvalid.pending_undecided _ List.mem_cons_self⟩
    · obtain ⟨hwaiting, hnone⟩ := h.pushed_new s' hs'
      exact ⟨fun hs' => hwaiting (List.mem_cons_of_mem next hs'), hnone⟩

theorem Valid.look?_of_decided (h : Valid ⟨s :: below, memo, evaluated⟩ tokens haystack)
    (hstep : step tokens.toArray haystack memo s = .decided verdict) :
    look? tokens.toArray haystack ⟨s :: below, memo, evaluated⟩ = some (.decides s verdict) := by
  have hundecided : memo.verdict? s = none := h.pending_undecided s List.mem_cons_self
  simp only [look?, hundecided, hstep]

theorem Valid.look?_of_needs (h : Valid ⟨s :: below, memo, evaluated⟩ tokens haystack)
    (hstep : step tokens.toArray haystack memo s = .needs next) :
    look? tokens.toArray haystack ⟨s :: below, memo, evaluated⟩ = some (.pushes next) := by
  have hundecided : memo.verdict? s = none := h.pending_undecided s List.mem_cons_self
  simp only [look?, hundecided, hstep]

theorem Valid.once_trace (h : run.Valid tokens haystack) (fuel : Nat) :
    run.Once (run.trace tokens.toArray haystack fuel) := by
  induction fuel generalizing run with
  | zero => exact once_nil run
  | succ fuel ih =>
    have hrest := ih h.advance
    obtain ⟨_ | ⟨s, below⟩, memo, evaluated⟩ := run
    · exact once_nil _
    · cases hstep : step tokens.toArray haystack memo s with
      | decided verdict =>
        rw [trace_of_look (h.look?_of_decided hstep)]
        rw [h.advance_of_decided hstep] at hrest ⊢
        exact hrest.decide h
      | needs next =>
        rw [trace_of_look (h.look?_of_needs hstep)]
        rw [h.advance_of_needs hstep] at hrest ⊢
        exact hrest.push (h.push hstep)

end Once

section Count

variable {tokens : List (Token σ)} {haystack : Haystack σ} {run : Run}

/-- Each look counts once. -/
theorem Valid.looks_finish (h : run.Valid tokens haystack) (fuel : Nat) :
    (run.finish tokens.toArray haystack fuel).looks haystack.length tokens.length =
      run.looks haystack.length tokens.length + (run.trace tokens.toArray haystack fuel).length := by
  induction fuel generalizing run with
  | zero => rfl
  | succ fuel ih =>
    by_cases hpending : run.pending = []
    · rw [finish_of_pending_eq_nil hpending, trace_of_pending_eq_nil hpending, List.length_nil,
        Nat.add_zero]
    · obtain ⟨look, hlook⟩ := exists_look_of_pending_ne_nil tokens.toArray haystack hpending
      rw [finish_succ hpending, ih h.advance, h.looks_advance hpending, trace_of_look hlook,
        List.length_cons]
      omega

/-- Each look that decides a state gives a verdict to one state more. -/
theorem Valid.card_finish (h : run.Valid tokens haystack) (fuel : Nat) :
    ((run.finish tokens.toArray haystack fuel).memo.decidedStates haystack.length
      tokens.length).card = (run.memo.decidedStates haystack.length tokens.length).card +
        ((run.trace tokens.toArray haystack fuel).filterMap Look.decided?).length := by
  induction fuel generalizing run with
  | zero => rfl
  | succ fuel ih =>
    have hrest := ih h.advance
    obtain ⟨_ | ⟨s, below⟩, memo, evaluated⟩ := run
    · rfl
    · rw [finish_succ (List.cons_ne_nil s below), hrest]
      cases hstep : step tokens.toArray haystack memo s with
      | decided verdict =>
        rw [trace_of_look (h.look?_of_decided hstep), h.advance_of_decided hstep, h.card_decide verdict,
          List.filterMap_cons]
        simp only [Look.decided?, List.length_cons]
        omega
      | needs next =>
        rw [trace_of_look (h.look?_of_needs hstep), h.advance_of_needs hstep, List.filterMap_cons]
        simp only [Look.decided?]

/-- Where a run that has taken no look yet is over with a number of states decided, it takes one look less
than twice that number. -/
theorem Valid.length_trace (h : run.Valid tokens haystack)
    (hnew : run.looks haystack.length tokens.length = 1) {fuel count : Nat}
    (hover : (run.finish tokens.toArray haystack fuel).pending = [])
    (hcount : ((run.finish tokens.toArray haystack fuel).memo.decidedStates haystack.length
      tokens.length).card = count) (n : Nat) :
    ((run.finish tokens.toArray haystack n).pending = [] ↔ 2 * count - 1 ≤ n) ∧
    (run.trace tokens.toArray haystack n).length = min n (2 * count - 1) := by
  have hlast : ∀ m, (run.finish tokens.toArray haystack m).pending = [] →
      (run.trace tokens.toArray haystack m).length = 2 * count - 1 := by
    intro m hm
    have hsame : run.finish tokens.toArray haystack m = run.finish tokens.toArray haystack fuel := by
      rcases Nat.le_total m fuel with hle | hle
      · exact (finish_eq_of_le hm hle).symm
      · exact finish_eq_of_le hover hle
    have hlooks := h.looks_finish m
    rw [hsame, looks, hover, List.length_nil, hcount, hnew] at hlooks
    omega
  have hmin : ∀ m, (run.trace tokens.toArray haystack m).length = min m (2 * count - 1) := by
    intro m
    have hover' := finish_eq_of_le hover (Nat.le_max_left fuel m)
    rw [trace_eq_take (Nat.le_max_right fuel m), List.length_take, hlast _ (hover' ▸ hover)]
  refine ⟨⟨fun hn => ?_, fun hn => ?_⟩, hmin n⟩
  · have hlength := (hmin n).symm.trans (hlast n hn)
    omega
  -- A run that is not over takes one look more, which the number of looks leaves no room for.
  · by_contra hne
    have hlength := (hmin (n + 1)).symm.trans (length_trace_of_pending_ne_nil hne)
    omega

end Count

end Run

/-- At any time, each state that waits needs the one above it, which is further on, and none of them
has its verdict; there are never more of them than symbols and tokens, and one. No state is dropped,
none is put in front twice and none decided twice, so no verdict is written twice. And a search in which
some number of looks decide a state is over after one look less than twice that number, and not before. -/
theorem search_pushes_and_decides_once [BEq σ] (b : Backtracker σ) (cache : Cache)
    (haystack : Haystack σ)
    (hword : (haystack.length + 1) * (b.pattern.length + 1) ≤ wordMax)
    (hlimit : ∀ limit ∈ b.settings.tableSizeLimit,
      (haystack.length + 1) * (b.pattern.length + 1) ≤ limit) :
    let cells := (haystack.length + 1) * (b.pattern.length + 1)
    let tokens := b.pattern.tokens.toArray
    let start := Run.start (cache.setup cells (b.pattern.length + 1))
    let outcome := b.search cache haystack
    let evaluated := ((start.trace tokens haystack (2 * cells)).filterMap Look.decided?).length
    b.checkedSearch cache haystack = .ok outcome ∧
    outcome.log = [.backtrackEvaluated (Int32.ofNat evaluated) cells] ∧
    ∀ n,
      let run := start.finish tokens haystack n
      let looks := start.trace tokens haystack n
      run = looks.foldl Run.after start ∧
      run.Stacked b.pattern.tokens haystack ∧
      start.Once looks ∧
      (looks.filterMap Look.decided?).length =
        (run.memo.decidedStates haystack.length b.pattern.length).card ∧
      looks.length = min n (2 * evaluated - 1) ∧
      (run.pending = [] ↔ 2 * evaluated - 1 ≤ n) ∧
      (run.pending = [] →
        (looks.filterMap Look.decided?).length = evaluated ∧ run.memo = outcome.cache.memo) := by
  intro cells tokens start outcome evaluated
  let ready := cache.setup cells (b.pattern.length + 1)
  let finished := b.run haystack ready
  have hsearch : outcome = ⟨.ok (finished.memo.verdict? ⟨0, 0⟩ == some true),
      ⟨finished.pending, finished.memo, max cache.room cells⟩,
      [.backtrackEvaluated finished.evaluated cells]⟩ :=
    b.search_of_admitted haystack cache (checkedCellCount_of_le hword hlimit)
  have hstart : start.Valid b.pattern.tokens haystack := Run.valid_start cache _ _
  have hover : finished.pending = [] := pending_run hstart
  have hnew : start.looks haystack.length b.pattern.tokens.length = 1 := Run.looks_start cache _ _
  have hnone : (start.memo.decidedStates haystack.length b.pattern.tokens.length).card = 0 := by
    have hroot : start.pending.length = 1 := rfl
    rw [Run.looks, hroot] at hnew
    omega
  have hdecided : ∀ n, ((start.trace tokens haystack n).filterMap Look.decided?).length =
      ((start.finish tokens haystack n).memo.decidedStates haystack.length
        b.pattern.tokens.length).card := by
    intro n
    rw [hstart.card_finish n, hnone, Nat.zero_add]
  have hfinished : finished = start.finish tokens haystack (2 * cells) := by
    have hsize : ready.memo.size = cells := hstart.covers.size_eq
    simp only [finished, run, hsize]
    rfl
  have hevaluated : evaluated =
      (finished.memo.decidedStates haystack.length b.pattern.tokens.length).card := by
    rw [hfinished]
    exact hdecided _
  have hlog : finished.evaluated = Int32.ofNat evaluated := by
    rw [hevaluated]
    exact (hstart.finish _).evaluated_eq
  refine ⟨b.checkedSearch_eq cache haystack hword hlimit, by rw [hsearch, hlog], ?_⟩
  intro n run looks
  have hstacked : run.Stacked b.pattern.tokens haystack :=
    (hstart.finish n).stacked ((Run.linked_start cache _ _ _ _).finish hstart n)
  obtain ⟨hends, hlength⟩ := hstart.length_trace hnew hover hevaluated.symm n
  refine ⟨Run.finish_eq_foldl_after n, hstacked, hstart.once_trace n, hdecided n, hlength, hends, ?_⟩
  intro hpending
  have hsame : run = finished := by
    rcases Nat.le_total n (2 * ready.memo.size) with hle | hle
    · exact (Run.finish_eq_of_le hpending hle).symm
    · exact Run.finish_eq_of_le hover hle
  rw [hsearch, hsame, hevaluated]
  exact ⟨by rw [hdecided n, ← hsame], rfl⟩

/-- Five states are decided in nine looks: at the first atom and again behind one symbol, the star is
passed over first. -/
theorem search_pushes_and_decides_once_nine :
    let b : Backtracker UInt8 :=
      ⟨{ tableSizeLimit? := some (some 12) }, ⟨[.lit 97, .star, .lit 98], rfl⟩⟩
    let cache : Cache := ⟨[⟨7, 2⟩, ⟨0, 0⟩], .filled 5 40 (some false), 40⟩
    let haystack : Haystack UInt8 := .ofList [97, 98]
    let tokens := b.pattern.tokens.toArray
    let start := Run.start (cache.setup 12 4)
    (haystack.length + 1) * (b.pattern.length + 1) ≤ wordMax ∧
      (∀ limit ∈ b.settings.tableSizeLimit,
        (haystack.length + 1) * (b.pattern.length + 1) ≤ limit) ∧
      start.trace tokens haystack 100 =
        [.pushes ⟨0, 2⟩, .decides ⟨0, 2⟩ false, .pushes ⟨1, 0⟩, .pushes ⟨1, 2⟩, .pushes ⟨2, 3⟩,
          .decides ⟨2, 3⟩ true, .decides ⟨1, 2⟩ true, .decides ⟨1, 0⟩ true, .decides ⟨0, 0⟩ true] ∧
      (∀ n, (start.finish tokens haystack n).pending = [] ↔ 9 ≤ n) ∧
      ∀ n, (start.finish tokens haystack n).pending.length ≤ 6 := by
  intro b cache haystack tokens start
  have hword : (haystack.length + 1) * (b.pattern.length + 1) ≤ wordMax := by decide
  have hlimit : ∀ limit ∈ b.settings.tableSizeLimit,
      (haystack.length + 1) * (b.pattern.length + 1) ≤ limit := by decide
  obtain ⟨-, -, hlooks⟩ := search_pushes_and_decides_once b cache haystack hword hlimit
  have hfive : ((start.trace tokens haystack 24).filterMap Look.decided?).length = 5 := by
    decide +kernel
  refine ⟨hword, hlimit, by decide +kernel, fun n => ?_, fun n => ?_⟩
  · obtain ⟨-, -, -, -, -, hends, -⟩ := hlooks n
    replace hends : (start.finish tokens haystack n).pending = [] ↔
        2 * ((start.trace tokens haystack 24).filterMap Look.decided?).length - 1 ≤ n := hends
    rwa [hfive] at hends
  · obtain ⟨-, hstacked, -⟩ := hlooks n
    exact hstacked.length_le

end StarMatch.Backtracker
