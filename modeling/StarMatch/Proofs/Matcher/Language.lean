import StarMatch.Matcher.Basic
import StarMatch.Proofs.Matcher.Prefilter
import StarMatch.Proofs.Matcher.Strategy

/-!
# All matchers decide the same language

Whatever settings a pattern is compiled under, and whatever its caches hold, a matcher that gives a
verdict says whether the pattern matches the whole haystack. The settings only decide which searches
are refused, and no haystack that the prefilter stops is refused.
-/

namespace StarMatch

namespace Matcher

variable {settings : MatcherSettings} {p : Pattern UInt8} {haystack : List UInt8}

/-- The prefilter stops no haystack that matches. -/
theorem passes_of_matches (h : p.Matches haystack) : (ofPattern settings p).passes haystack = true := by
  rw [passes, ofPattern]
  cases settings.usesPrefilter with
  | true => exact Prefilter.isPossible_of_matches h
  | false => rfl

theorem verdict_search_of_stopped (cache : MatcherCache)
    (h : (ofPattern settings p).passes haystack = false) :
    ((ofPattern settings p).search cache haystack).verdict = .ok false := by
  rw [search, h]
  rfl

/-- A haystack that gets past the prefilter gets the answer of the chosen strategy. -/
theorem verdict_search_of_passes (cache : MatcherCache)
    (h : (ofPattern settings p).passes haystack = true)
    (hword : (haystack.length + 1) * (p.length + 1) ≤ wordMax) :
    ((ofPattern settings p).search cache haystack).verdict =
      p.answer (settings.limitFor p) (.ofList haystack) := by
  rw [search, if_pos h]
  exact Strategy.verdict_search_choose settings p cache haystack (.inr hword)

/-- A search over a table of up to `roomMax` cells returns. -/
theorem searchInRoom_of_le (cache : MatcherCache)
    (hroom : (haystack.length + 1) * (p.length + 1) ≤ roomMax) :
    (ofPattern settings p).searchInRoom cache haystack =
      .ok ((ofPattern settings p).search cache haystack) := by
  have hreturns : (Strategy.choose settings p).roomPanic? haystack.length = none := by
    rw [Strategy.roomPanic?_choose, roomPanic?_of_le hroom, ite_self]
  rw [searchInRoom]
  split
  · simp only [ofPattern, hreturns]
  · rfl

/-- A search that needs no table returns. -/
theorem searchInRoom_of_hasRepetition (cache : MatcherCache) (hengine : settings.engine = .auto)
    (hrepetition : p.hasRepetition = false) :
    (ofPattern settings p).searchInRoom cache haystack =
      .ok ((ofPattern settings p).search cache haystack) := by
  have hreturns : (Strategy.choose settings p).roomPanic? haystack.length = none := by
    rw [Strategy.roomPanic?_choose, if_pos ⟨hengine, hrepetition⟩]
  rw [searchInRoom]
  split
  · simp only [ofPattern, hreturns]
  · rfl

/-- Without a limit, a matcher says of every haystack whether its pattern matches it, as long as a word
counts the cells of the table if one is needed. -/
theorem verdict_search_of_unlimited {cache : MatcherCache} (hlimit : settings.tableSizeLimit = none)
    (hword : (ofPattern settings p).passes haystack = true →
      settings.engine = .auto ∧ p.hasRepetition = false ∨
        (haystack.length + 1) * (p.length + 1) ≤ wordMax) {verdict : Bool}
    (hverdict : verdict = true ↔ p.Matches haystack) :
    ((ofPattern settings p).search cache haystack).verdict = .ok verdict := by
  cases hpasses : (ofPattern settings p).passes haystack with
  | false =>
    have hstopped : verdict ≠ true := by
      intro htrue
      rw [passes_of_matches (hverdict.mp htrue)] at hpasses
      cases hpasses
    rw [verdict_search_of_stopped cache hpasses, Bool.eq_false_iff.mpr hstopped]
  | true =>
    have hunlimited : settings.limitFor p = none := by
      rw [MatcherSettings.limitFor, hlimit, ite_self]
    rw [search, if_pos hpasses]
    refine (Strategy.verdict_search_choose settings p cache haystack (hword hpasses)).trans ?_
    rw [hunlimited]
    exact (Strategy.ok_eq_answer hverdict).symm

/-- Without a limit, a matcher that returns says whether its pattern matches the haystack, however long
that is. -/
theorem verdict_of_searchInRoom {cache : MatcherCache} {outcome : Outcome MatcherCache}
    (hlimit : settings.tableSizeLimit = none)
    (hreturns : (ofPattern settings p).searchInRoom cache haystack = .ok outcome) {verdict : Bool}
    (hverdict : verdict = true ↔ p.Matches haystack) : outcome.verdict = .ok verdict := by
  have hsearch : (ofPattern settings p).search cache haystack = outcome ∧
      ((ofPattern settings p).passes haystack = true →
        (Strategy.choose settings p).roomPanic? haystack.length = none) := by
    rw [searchInRoom] at hreturns
    split at hreturns
    · split at hreturns
      · cases hreturns
      · next hroom => exact ⟨Except.ok.inj hreturns, fun _ => hroom⟩
    · next hpasses => exact ⟨Except.ok.inj hreturns, fun h => absurd h hpasses⟩
  obtain ⟨rfl, hroom⟩ := hsearch
  refine verdict_search_of_unlimited hlimit (fun hpasses => ?_) hverdict
  rw [or_iff_not_imp_left]
  intro hengine
  have hreturned := hroom hpasses
  rw [Strategy.roomPanic?_choose, if_neg hengine, hlimit] at hreturned
  exact cells_le_wordMax_of_room hreturned rfl

end Matcher

/-- A limit that a search works under is the one that was set. -/
theorem MatcherSettings.tableSizeLimit_of_limitFor {settings : MatcherSettings} {p : Pattern UInt8}
    {limit : Nat} (h : settings.limitFor p = some limit) : settings.tableSizeLimit = some limit := by
  rw [limitFor] at h
  split at h
  · cases h
  · exact h

/-- Under all settings and with any cache, the verdict on a haystack is whether the pattern matches
it, and a search without a verdict has a table of more cells than the limit that was set. -/
theorem MatcherBuilder.search_ofPattern_decides_matches (builder : MatcherBuilder) (p : Pattern UInt8)
    (cache : MatcherCache) (haystack : List UInt8)
    (hword : (haystack.length + 1) * (p.length + 1) ≤ wordMax) :
    (∀ verdict, ((builder.ofPattern p).search cache haystack).verdict = .ok verdict →
      (verdict = true ↔ p.Matches haystack)) ∧
    ∀ refusal, ((builder.ofPattern p).search cache haystack).verdict = .error refusal →
      ∃ limit, builder.settings.tableSizeLimit = some limit ∧
        limit < (haystack.length + 1) * (p.length + 1) ∧
        refusal = ⟨(haystack.length + 1) * (p.length + 1), limit⟩ := by
  cases hpasses : (Matcher.ofPattern builder.settings p).passes haystack with
  | false =>
    have hsearch := Matcher.verdict_search_of_stopped cache hpasses
    constructor
    · intro verdict hverdict
      obtain rfl : false = verdict := Except.ok.inj (hsearch.symm.trans hverdict)
      have hmatches : ¬ p.Matches haystack := by
        intro hmatches
        rw [Matcher.passes_of_matches hmatches] at hpasses
        cases hpasses
      simp [hmatches]
    · intro refusal hrefused
      cases hsearch.symm.trans hrefused
  | true =>
    have hsearch := Matcher.verdict_search_of_passes cache hpasses hword
    constructor
    · intro verdict hverdict
      have hanswer := hsearch.symm.trans hverdict
      simpa using Pattern.eq_true_iff_matches_of_answer hanswer
    · intro refusal hrefused
      have hanswer := hsearch.symm.trans hrefused
      obtain ⟨limit, hlimit, hlt, rfl⟩ := exists_limit_of_refused (Pattern.refused_of_answer hanswer)
      rw [Haystack.length_ofList, cellCount_of_le hword] at hlt ⊢
      exact ⟨limit, MatcherSettings.tableSizeLimit_of_limitFor hlimit, hlt, rfl⟩

/-- The table engine behind the prefilter, with a cache in which another table is left. -/
theorem MatcherBuilder.search_ofPattern_decides_matches_used_cache :
    let builder : MatcherBuilder :=
      { settings := { engine? := some .table, tableSizeLimit? := some (some 12) } }
    let p : Pattern UInt8 := ⟨[.lit 97, .star, .any], rfl⟩
    let cache : MatcherCache := { table := ⟨.filled 5 40 true, 40⟩ }
    (([97, 98] : List UInt8).length + 1) * (p.length + 1) ≤ wordMax ∧
      ((builder.ofPattern p).search cache [97, 98]).verdict = .ok true ∧ p.Matches [97, 98] := by
  intro builder p cache
  have hword : (([97, 98] : List UInt8).length + 1) * (p.length + 1) ≤ wordMax := by decide
  have hverdict : ((builder.ofPattern p).search cache [97, 98]).verdict = .ok true := by
    decide +kernel
  exact ⟨hword, hverdict,
    ((search_ofPattern_decides_matches builder p cache [97, 98] hword).1 true hverdict).mp rfl⟩

end StarMatch
