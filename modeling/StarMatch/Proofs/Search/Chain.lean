import StarMatch.Proofs.Search.Demand

/-!
# Chains of repetitions

A pattern that repeats the same symbol a number of times over is searched for in a run of that symbol with
another one behind it. Nothing comes of it, but only after every repetition has been tried behind every
symbol of the run. So the number of states that are evaluated is a product of two numbers that can be chosen
at will, and it can be larger than the log can show.
-/

namespace StarMatch.Backtracker

universe u

variable {σ : Type u}

/-- A symbol that is repeated, a number of times over. -/
def chainTokens (symbol : σ) : Nat → List (Token σ)
  | 0 => []
  | count + 1 => .lit symbol :: .star :: chainTokens symbol count

/-- Some number of equal symbols in front of another one. -/
def cutShort (symbol last : σ) (count : Nat) : Haystack σ :=
  .ofList (List.replicate count symbol ++ [last])

section Tokens

variable (symbol : σ)

theorem misplacedStarFrom?_chainTokens (bare : Bool) (offset count : Nat) :
    misplacedStarFrom? bare offset (chainTokens symbol count) = none := by
  induction count generalizing bare offset with
  | zero => rfl
  | succ count ih => simp [chainTokens, misplacedStarFrom?, ih]

/-- The pattern that repeats a symbol a number of times over. -/
def chain (count : Nat) : Pattern σ :=
  ⟨chainTokens symbol count, misplacedStarFrom?_chainTokens symbol true 0 count⟩

theorem length_chain (count : Nat) : (chain symbol count).length = 2 * count := by
  change (chainTokens symbol count).length = 2 * count
  induction count with
  | zero => rfl
  | succ count ih =>
    rw [chainTokens, List.length_cons, List.length_cons, ih]
    omega

theorem getElem?_chainTokens (count j : Nat) :
    (chainTokens symbol count)[2 * j]? = if j < count then some (.lit symbol) else none := by
  induction count generalizing j with
  | zero => rfl
  | succ count ih =>
    cases j with
    | zero => rfl
    | succ j =>
      rw [Nat.mul_succ, chainTokens, List.getElem?_cons_succ, List.getElem?_cons_succ, ih]
      simp

theorem getElem?_chainTokens_behind {count j : Nat} (h : j < count) :
    (chainTokens symbol count)[2 * j + 1]? = some .star := by
  induction count generalizing j with
  | zero => omega
  | succ count ih =>
    cases j with
    | zero => rfl
    | succ j =>
      rw [Nat.mul_succ, chainTokens, List.getElem?_cons_succ, List.getElem?_cons_succ,
        ih (by omega)]

end Tokens

variable {symbol last : σ} {n k i j : Nat}

theorem length_cutShort : (cutShort symbol last n).length = n + 1 := by
  simp [cutShort]

variable [BEq σ] [ReflBEq σ]

theorem accepts_cutShort (hne : (symbol == last) = false) (hi : i ≤ n) :
    ((cutShort symbol last n).get? i).any (Token.lit symbol).accepts = decide (i < n) := by
  rw [cutShort, Haystack.get?_ofList]
  rcases Nat.lt_or_eq_of_le hi with hlt | rfl
  · rw [List.getElem?_append_left (by simpa using hlt), List.getElem?_replicate_of_lt hlt]
    simp [Token.accepts, hlt]
  · rw [List.getElem?_append_right (by simp)]
    simp [Token.accepts, hne]

theorem accepts_chain_iff (hne : (symbol == last) = false) (hj : j < k) (hi : i ≤ n) :
    (⟨i, 2 * j⟩ : State).Accepts (chainTokens symbol k) (cutShort symbol last n) ↔
      (⟨i, 2 * (j + 1)⟩ : State).Accepts (chainTokens symbol k) (cutShort symbol last n) ∨
        i < n ∧ (⟨i + 1, 2 * j⟩ : State).Accepts (chainTokens symbol k) (cutShort symbol last n) := by
  have htoken := (getElem?_chainTokens symbol k j).trans (if_pos hj)
  have hstar := congrArg (Option.any Token.isStar) (getElem?_chainTokens_behind symbol hj)
  rw [accepts_repeated_iff htoken hstar]
  simp only [accepts_cutShort hne hi, decide_eq_true_eq, Nat.mul_succ]

/-- No state of the chain accepts, as the last symbol is left over. -/
theorem not_accepts_chain (hne : (symbol == last) = false) (hj : j ≤ k) (hi : i ≤ n) :
    ¬ (⟨i, 2 * j⟩ : State).Accepts (chainTokens symbol k) (cutShort symbol last n) := by
  induction hj using Nat.decreasingInduction generalizing i with
  | self =>
    have hend : (chainTokens symbol k)[(⟨i, 2 * k⟩ : State).passed]? = none := by
      rw [getElem?_chainTokens, if_neg (Nat.lt_irrefl k)]
    have hle : i ≤ (cutShort symbol last n).length := by
      rw [length_cutShort]
      omega
    rw [accepts_end_iff hend hle, length_cutShort]
    exact Nat.ne_of_lt (Nat.lt_succ_of_le hi)
  | of_succ j hj ih =>
    induction hi using Nat.decreasingInduction with
    | self =>
      rw [accepts_chain_iff hne hj (Nat.le_refl n), not_or]
      exact ⟨ih (Nat.le_refl n), fun h => Nat.lt_irrefl n h.1⟩
    | of_succ i hi ih' =>
      rw [accepts_chain_iff hne hj (Nat.le_of_lt hi), not_or]
      exact ⟨ih (Nat.le_of_lt hi), fun h => ih' h.2⟩

/-- The states that stand in front of a repeated symbol or at the end, the last symbol not used up. -/
def chainStates (n k : Nat) : Finset State :=
  (Finset.range (n + 1) ×ˢ Finset.range (k + 1)).map
    ⟨fun place => ⟨place.1, 2 * place.2⟩, fun place place' h => by
      obtain ⟨hrow, hcolumn⟩ := State.mk.inj h
      exact Prod.ext hrow (Nat.mul_left_cancel Nat.two_pos hcolumn)⟩

theorem mem_chainStates {s : State} :
    s ∈ chainStates n k ↔ ∃ i j, i ≤ n ∧ j ≤ k ∧ s = ⟨i, 2 * j⟩ := by
  simp only [chainStates, Finset.mem_map, Finset.mem_product, Finset.mem_range, Nat.lt_succ_iff,
    Prod.exists]
  constructor
  · rintro ⟨i, j, ⟨hi, hj⟩, rfl⟩
    exact ⟨i, j, hi, hj, rfl⟩
  · rintro ⟨i, j, hi, hj, rfl⟩
    exact ⟨i, j, ⟨hi, hj⟩, rfl⟩

theorem card_chainStates (n k : Nat) : (chainStates n k).card = (n + 1) * (k + 1) := by
  simp [chainStates]

/-- The chain asks for all of these states: as none accepts, each of them asks for all it can. -/
theorem isLeast_chainStates (hne : (symbol == last) = false) (hk : 0 < k) :
    IsLeast {S | ClosedUnderAsking (chainTokens symbol k) (cutShort symbol last n) S}
      (chainStates n k : Set State) := by
  have htoken {j : Nat} (hj : j < k) := (getElem?_chainTokens symbol k j).trans (if_pos hj)
  have hstar {j : Nat} (hj : j < k) :=
    congrArg (Option.any Token.isStar) (getElem?_chainTokens_behind symbol hj)
  constructor
  · refine ⟨mem_chainStates.mpr ⟨0, 0, Nat.zero_le n, Nat.zero_le k, rfl⟩, ?_⟩
    intro s hs next hasks
    obtain ⟨i, j, hi, hj, rfl⟩ := mem_chainStates.mp hs
    have hbelow : ∀ token, (chainTokens symbol k)[2 * j]? = some token →
        j < k ∧ token = .lit symbol := by
      intro token htoken'
      rw [getElem?_chainTokens] at htoken'
      split at htoken'
      · next hlt => exact ⟨hlt, (Option.some.inj htoken').symm⟩
      · cases htoken'
    cases hasks with
    | skipped htoken' _ =>
      exact mem_chainStates.mpr ⟨i, j + 1, hi, (hbelow _ htoken').1, rfl⟩
    | taken htoken' _ _ haccepted =>
      obtain ⟨-, rfl⟩ := hbelow _ htoken'
      rw [accepts_cutShort hne hi, decide_eq_true_eq] at haccepted
      exact mem_chainStates.mpr ⟨i + 1, j, haccepted, hj, rfl⟩
    | behind htoken' hsingle _ =>
      rw [hstar (hbelow _ htoken').1] at hsingle
      cases hsingle
  · intro S hS s hs
    obtain ⟨i, j, hi, hj, rfl⟩ := mem_chainStates.mp hs
    have hfirst : ∀ i ≤ n, (⟨i, 2 * 0⟩ : State) ∈ S := by
      intro i hi
      induction i with
      | zero => exact hS.root
      | succ i ih =>
        have haccepted := (accepts_cutShort hne (Nat.le_of_lt hi)).trans (decide_eq_true hi)
        exact hS.asked _ (ih (Nat.le_of_lt hi)) _
          (.taken (htoken hk) (hstar hk) (not_accepts_chain hne hk (Nat.le_of_lt hi)) haccepted)
    induction j with
    | zero => exact hfirst i hi
    | succ j ih =>
      have hstate := mem_chainStates.mpr ⟨i, j, hi, Nat.le_of_lt hj, rfl⟩
      exact hS.asked _ (ih (Nat.le_of_lt hj) hstate) _ (.skipped (htoken hj) (hstar hj))

/-- A chain of repetitions is given up when each of them, and the end of the pattern, has been tried behind
each symbol of the run and at its front. -/
theorem search_chain (hne : (symbol == last) = false) (hk : 0 < k)
    (hroom : (n + 2) * (2 * k + 1) ≤ roomMax) :
    let b : Backtracker σ := ⟨{}, chain symbol k⟩
    let haystack := cutShort symbol last n
    ∃ outcome, b.searchInRoom {} haystack = .ok outcome ∧ outcome.verdict = .ok false ∧
      (outcome.cache.memo.decidedStates haystack.length b.pattern.length).card = (n + 1) * (k + 1) ∧
      outcome.log =
        [.backtrackEvaluated (Int32.ofNat ((n + 1) * (k + 1))) ((n + 2) * (2 * k + 1))] := by
  intro b haystack
  have hlength : b.pattern.length = 2 * k := length_chain symbol k
  have hcells : (haystack.length + 1) * (b.pattern.length + 1) = (n + 2) * (2 * k + 1) := by
    rw [length_cutShort, hlength]
  rw [← hcells] at hroom ⊢
  have hword := Nat.le_trans hroom (Nat.le_of_lt roomMax_lt_wordMax)
  have hrejects : ¬ b.pattern.Matches haystack.toList :=
    not_accepts_chain hne (Nat.zero_le k) (Nat.zero_le n)
  have hverdict : (b.search {} haystack).verdict = .ok false :=
    verdict_search_of_unlimited rfl hword (by simp [hrejects])
  obtain ⟨-, -, hleast, hlog⟩ :=
    b.evaluation_of_admitted {} haystack (checkedCellCount_of_le hword nofun)
  have hstates := Finset.coe_injective (hleast.unique (isLeast_chainStates hne hk))
  rw [hstates, card_chainStates] at hlog
  exact ⟨_, b.searchInRoom_of_le {} haystack hroom, hverdict, by rw [hstates, card_chainStates], hlog⟩

/-- A chain of 46340 repetitions is tried on as many symbols and one. More states are evaluated than a signed
word of 32 bits can count, and the number that is logged is not theirs. -/
theorem log_of_longest_chain_is_negative :
    let b : Backtracker UInt8 := ⟨{}, chain 97 46340⟩
    let haystack : Haystack UInt8 := cutShort 97 98 46340
    let cells := (haystack.length + 1) * (b.pattern.length + 1)
    cells ≤ wordMax ∧ ∃ outcome logged, b.searchInRoom {} haystack = .ok outcome ∧
      outcome.verdict = .ok false ∧
      (outcome.cache.memo.decidedStates haystack.length b.pattern.length).card = 2147488281 ∧
      outcome.log = [.backtrackEvaluated logged cells] ∧ logged.toInt = -2147479015 := by
  intro b haystack cells
  have hcells : cells = 4295022902 := by
    simp only [cells, haystack, b, length_cutShort, length_chain]
  obtain ⟨outcome, hreturns, hverdict, hcard, hlog⟩ :=
    search_chain (show ((97 : UInt8) == 98) = false by decide) (show 0 < 46340 by decide)
      (show (46340 + 2) * (2 * 46340 + 1) ≤ roomMax by decide)
  rw [hcells]
  exact ⟨by decide, outcome, Int32.ofNat 2147488281, hreturns, hverdict, hcard, hlog, by decide⟩

end StarMatch.Backtracker
