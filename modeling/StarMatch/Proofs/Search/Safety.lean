import StarMatch.Proofs.Search.CheckedBacktrack
import StarMatch.Proofs.Search.CheckedTable
import StarMatch.Proofs.Search.Refusal

/-!
# What can stop a search

An admitted search whose table a word can count fails no check, in either engine. What is left to stop
it is its memory: there is no room for a table of more than `roomMax` cells, and a search over one stops
before it looks at a symbol.
-/

namespace StarMatch

universe u

namespace Backtracker

variable {σ : Type u} [BEq σ] {p : Pattern σ}

/-- Between any two looks, the states that wait are states of the search that do not stand at a star,
their places are in the grid, and no more states have been decided than it has cells. -/
theorem finish_within (cache : Cache) (p : Pattern σ) (haystack : Haystack σ) (looks : Nat) :
    let cells := (haystack.length + 1) * (p.length + 1)
    let run := (Run.start (cache.setup cells (p.length + 1))).finish p.tokens.toArray haystack looks
    (∀ s ∈ run.pending, s.consumed ≤ haystack.length ∧ s.passed ≤ p.length ∧
      p.tokens[s.passed]?.any Token.isStar = false ∧
      run.memo.index s.consumed s.passed < run.memo.size) ∧
    run.memo.size = cells ∧
    run.pending.length + (run.memo.decidedStates haystack.length p.length).card ≤ cells := by
  intro cells run
  have hstart := Run.valid_start cache p.tokens haystack
  have hvalid : run.Valid p.tokens haystack := hstart.finish looks
  have hlazy : run.Lazy p.tokens haystack := (Run.lazy_start cache _ _).finish hstart looks
  refine ⟨?_, hvalid.covers.size_eq, hvalid.pending_add_decided_le⟩
  intro s hs
  obtain ⟨hmem, hstar⟩ := hlazy.stands hvalid s hs
  obtain ⟨hconsumed, hpassed⟩ := mem_states.mp hmem
  exact ⟨hconsumed, hpassed, hstar,
    hvalid.covers.index_lt (Nat.lt_succ_of_le hconsumed) (Nat.lt_succ_of_le hpassed)⟩

omit [BEq σ] in
/-- Different states have different places in a grid that is one column wider than the pattern is
long. -/
theorem State.eq_of_index_eq {memo : Memo} (hstride : memo.stride = p.length + 1) {s s' : State}
    (hs : s.passed ≤ p.length) (hs' : s'.passed ≤ p.length)
    (h : memo.index s.consumed s.passed = memo.index s'.consumed s'.passed) : s = s' := by
  obtain ⟨consumed, passed⟩ := s
  obtain ⟨consumed', passed'⟩ := s'
  obtain ⟨rfl, rfl⟩ := Grid.index_inj (hstride ▸ Nat.lt_succ_of_le hs)
    (hstride ▸ Nat.lt_succ_of_le hs') h
  rfl

end Backtracker

namespace Pattern

variable {σ : Type u} [BEq σ]

/-- An admitted search passes all checks in both engines, and has a verdict for a caller who leaves
refusals unhandled. The backtracker keeps to the states of its grid, none of them at a star and no two
in one place, and never has more of them waiting than the grid has cells. No table of up to `roomMax`
cells stops a search, and every larger one does. -/
theorem searches_pass_all_checks (p : Pattern σ) (settings : SearchSettings) (haystack : Haystack σ)
    (cache : Backtracker.Cache) (cache' : TableMatcher.Cache)
    (hword : (haystack.length + 1) * (p.length + 1) ≤ wordMax)
    (hlimit : ∀ limit ∈ settings.tableSizeLimit,
      (haystack.length + 1) * (p.length + 1) ≤ limit) :
    let cells := (haystack.length + 1) * (p.length + 1)
    let b : Backtracker σ := ⟨settings, p⟩
    let m : TableMatcher σ := ⟨settings, p⟩
    b.checkedSearch cache haystack = .ok (b.search cache haystack) ∧
    m.checkedSearch cache' haystack = .ok (m.search cache' haystack) ∧
    (∃ verdict, (b.search cache haystack).unwrapped = .ok verdict) ∧
    (∃ verdict, (m.search cache' haystack).unwrapped = .ok verdict) ∧
    (∀ looks,
      let run := (Backtracker.Run.start (cache.setup cells (p.length + 1))).finish p.tokens.toArray
        haystack looks
      (∀ s ∈ run.pending, s.consumed ≤ haystack.length ∧ s.passed ≤ p.length ∧
        p.tokens[s.passed]?.any Token.isStar = false ∧
        run.memo.index s.consumed s.passed < run.memo.size) ∧
      run.memo.size = cells ∧
      run.pending.length + (run.memo.decidedStates haystack.length p.length).card ≤ cells) ∧
    (∀ memo : Backtracker.Memo, memo.stride = p.length + 1 →
      ∀ s s' : Backtracker.State, s.passed ≤ p.length → s'.passed ≤ p.length →
        memo.index s.consumed s.passed = memo.index s'.consumed s'.passed → s = s') ∧
    searchInRoom (b.search cache) p.length settings.tableSizeLimit haystack =
      (if roomMax < cells then .error (.text "capacity overflow")
        else .ok (b.search cache haystack)) ∧
    searchInRoom (m.search cache') p.length settings.tableSizeLimit haystack =
      (if roomMax < cells then .error (.text "capacity overflow")
        else .ok (m.search cache' haystack)) := by
  intro cells b m
  have hadmitted := checkedCellCount_of_le hword hlimit
  refine ⟨b.checkedSearch_eq cache haystack hword hlimit,
    m.checkedSearch_eq cache' haystack hword hlimit, ?_, ?_,
    Backtracker.finish_within cache p haystack, ?_, searchInRoom_of_admitted _ hadmitted,
    searchInRoom_of_admitted _ hadmitted⟩
  · rw [b.search_of_admitted haystack cache hadmitted]
    exact ⟨_, rfl⟩
  · rw [m.search_of_admitted haystack cache' hadmitted]
    exact ⟨_, rfl⟩
  · intro memo hstride s s' hs hs'
    exact Backtracker.State.eq_of_index_eq hstride hs hs'

/-- A table of twelve cells has room, and passes all checks though the caches hold other tables. -/
theorem searches_pass_all_checks_twelve :
    let p : Pattern UInt8 := ⟨[.lit 97, .star, .lit 98], rfl⟩
    let settings : SearchSettings := { tableSizeLimit? := some (some 12) }
    let haystack : Haystack UInt8 := .ofList [97, 98]
    let cache : Backtracker.Cache := ⟨[⟨7, 2⟩], .filled 5 40 (some false), 40⟩
    let cache' : TableMatcher.Cache := ⟨.filled 2 6 true, 6⟩
    let b : Backtracker UInt8 := ⟨settings, p⟩
    let m : TableMatcher UInt8 := ⟨settings, p⟩
    (haystack.length + 1) * (p.length + 1) ≤ wordMax ∧
      (∀ limit ∈ settings.tableSizeLimit, (haystack.length + 1) * (p.length + 1) ≤ limit) ∧
      b.checkedSearch cache haystack = .ok (b.search cache haystack) ∧
      m.checkedSearch cache' haystack = .ok (m.search cache' haystack) ∧
      searchInRoom (m.search cache') p.length settings.tableSizeLimit haystack =
        .ok (m.search cache' haystack) := by
  intro p settings haystack cache cache' b m
  have hword : (haystack.length + 1) * (p.length + 1) ≤ wordMax := by decide
  have hlimit : ∀ limit ∈ settings.tableSizeLimit,
      (haystack.length + 1) * (p.length + 1) ≤ limit := by decide
  obtain ⟨hbacktracker, htable, -, -, -, -, -, hroom⟩ :=
    searches_pass_all_checks p settings haystack cache cache' hword hlimit
  exact ⟨hword, hlimit, hbacktracker, htable, hroom⟩

/-- A haystack of symbols that take up no memory can be so long that a word counts the cells of its
table but there is no room for them. Both engines stop, under no limit. -/
theorem longest_rooms_are_refused :
    let p : Pattern Unit := .empty
    let haystack : Haystack Unit := .replicate (2 ^ 63 - 1) ()
    let settings : SearchSettings := {}
    (haystack.length + 1) * (p.length + 1) ≤ wordMax ∧
      (∀ limit ∈ settings.tableSizeLimit, (haystack.length + 1) * (p.length + 1) ≤ limit) ∧
      searchInRoom (⟨settings, p⟩ : Backtracker Unit).isMatch p.length settings.tableSizeLimit
        haystack = .error (.text "capacity overflow") ∧
      searchInRoom (⟨settings, p⟩ : TableMatcher Unit).isMatch p.length settings.tableSizeLimit
        haystack = .error (.text "capacity overflow") := by
  intro p haystack settings
  have hword : (haystack.length + 1) * (p.length + 1) ≤ wordMax := by decide
  have hlimit : ∀ limit ∈ settings.tableSizeLimit,
      (haystack.length + 1) * (p.length + 1) ≤ limit := nofun
  have hroom : roomMax < (haystack.length + 1) * (p.length + 1) := by decide
  have hadmitted := checkedCellCount_of_le hword hlimit
  refine ⟨hword, hlimit, ?_, ?_⟩
  · rw [searchInRoom_of_admitted _ hadmitted, if_pos hroom]
  · rw [searchInRoom_of_admitted _ hadmitted, if_pos hroom]

end Pattern

end StarMatch
