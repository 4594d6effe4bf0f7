import StarMatch.Proofs.Matcher.Language

/-!
# One pattern under two settings

Settings have no part in what a pattern matches, so two matchers of one pattern can differ only in
which haystacks they refuse. Settings are relaxed by raising or removing the limit, by turning the
prefilter on and by choosing the automatic engine, and relaxed settings keep every verdict.
-/

namespace StarMatch

universe u

/-- Where one limit admits a search, a higher one or none at all does too. -/
theorem checkedCellCount_of_relaxed {haystackLength patternLength cells : Nat}
    {limit relaxed : Option Nat} (h : ∀ l ∈ relaxed, ∃ lower ∈ limit, lower ≤ l)
    (hadmitted : checkedCellCount haystackLength patternLength limit = .ok cells) :
    checkedCellCount haystackLength patternLength relaxed = .ok cells := by
  cases relaxed with
  | none => rw [eq_cellCount_of_checked hadmitted, checkedCellCount]
  | some l =>
    obtain ⟨lower, rfl, hle⟩ := h l rfl
    simp only [checkedCellCount] at hadmitted ⊢
    split at hadmitted
    · cases hadmitted
    · next hfits => rw [if_neg (by omega), hadmitted]

namespace Pattern

variable {σ : Type u} [BEq σ] {p : Pattern σ} {haystack : Haystack σ}

/-- A search that gets a verdict gets the same one under a higher limit or none at all. -/
theorem answer_of_relaxed {limit relaxed : Option Nat} {verdict : Bool}
    (h : ∀ l ∈ relaxed, ∃ lower ∈ limit, lower ≤ l)
    (hanswer : p.answer limit haystack = .ok verdict) :
    p.answer relaxed haystack = .ok verdict := by
  have hverdict := eq_true_iff_matches_of_answer hanswer
  cases hchecked : checkedCellCount haystack.length p.length limit with
  | error refusal =>
    rw [answer_of_refused hchecked] at hanswer
    cases hanswer
  | ok cells => exact answer_of_admitted (checkedCellCount_of_relaxed h hchecked) hverdict

end Pattern

namespace MatcherSettings

/-- The second settings are those of the first with any of three changes made: the limit raised or
removed, the prefilter turned on, the automatic engine chosen. -/
structure RelaxedTo (settings relaxed : MatcherSettings) : Prop where
  engine : relaxed.engine = settings.engine ∨ relaxed.engine = .auto
  prefilter : settings.usesPrefilter = true → relaxed.usesPrefilter = true
  limit : ∀ l ∈ relaxed.tableSizeLimit, ∃ lower ∈ settings.tableSizeLimit, lower ≤ l

variable {settings relaxed : MatcherSettings}

/-- A limit that a search works under after the change was there before, perhaps lower. -/
theorem RelaxedTo.limitFor (h : settings.RelaxedTo relaxed) (p : Pattern UInt8) :
    ∀ l ∈ relaxed.limitFor p, ∃ lower ∈ settings.limitFor p, lower ≤ l := by
  intro l hl
  have hlimit := tableSizeLimit_of_limitFor hl
  obtain ⟨lower, hlower, hle⟩ := h.limit l hlimit
  refine ⟨lower, ?_, hle⟩
  -- The limit would count for nothing only where the automatic engine needs no table.
  have htable : ¬ (settings.engine = .auto ∧ p.hasRepetition = false) := by
    rintro ⟨hauto, hrepetition⟩
    have hauto' : relaxed.engine = .auto := h.engine.elim (·.trans hauto) id
    rw [MatcherSettings.limitFor, if_pos ⟨hauto', hrepetition⟩] at hl
    cases hl
  rw [MatcherSettings.limitFor, if_neg htable]
  exact hlower

end MatcherSettings

namespace Matcher

variable {settings settings' : MatcherSettings} {p : Pattern UInt8} {haystack : List UInt8}

theorem passes_ofPattern (settings : MatcherSettings) (p : Pattern UInt8) (haystack : List UInt8) :
    (ofPattern settings p).passes haystack =
      (!settings.usesPrefilter || (Prefilter.ofPattern? p).all (·.isPossible haystack)) := by
  rw [passes, ofPattern]
  cases settings.usesPrefilter <;> rfl

/-- A haystack that gets past the prefilter gets past one that is turned off. -/
theorem passes_of_passes
    (hprefilter : settings.usesPrefilter = true → settings'.usesPrefilter = true)
    (h : (ofPattern settings' p).passes haystack = true) :
    (ofPattern settings p).passes haystack = true := by
  rw [passes_ofPattern] at h ⊢
  cases hused : settings.usesPrefilter with
  | false => rfl
  | true => rwa [hprefilter hused] at h

/-- What the prefilter stops under some settings does not match under any. -/
theorem verdict_of_stopped {cache : MatcherCache} {verdict : Bool}
    (hstopped : (ofPattern settings' p).passes haystack = false)
    (hword : (haystack.length + 1) * (p.length + 1) ≤ wordMax)
    (h : ((ofPattern settings p).search cache haystack).verdict = .ok verdict) :
    verdict = false := by
  have hmatches : ¬ p.Matches haystack := by
    intro hmatches
    rw [passes_of_matches hmatches] at hstopped
    cases hstopped
  cases hpasses : (ofPattern settings p).passes haystack with
  | false =>
    rw [verdict_search_of_stopped cache hpasses] at h
    exact (Except.ok.inj h).symm
  | true =>
    rw [verdict_search_of_passes cache hpasses hword] at h
    have hverdict := Pattern.eq_true_iff_matches_of_answer h
    rw [Haystack.toList_ofList] at hverdict
    exact Bool.eq_false_iff.mpr fun htrue => hmatches (hverdict.mp htrue)

/-- Relaxed settings keep every verdict. -/
theorem verdict_of_relaxed (hrelaxed : settings.RelaxedTo settings')
    (hword : (haystack.length + 1) * (p.length + 1) ≤ wordMax) {cache : MatcherCache}
    (cache' : MatcherCache) {verdict : Bool}
    (h : ((ofPattern settings p).search cache haystack).verdict = .ok verdict) :
    ((ofPattern settings' p).search cache' haystack).verdict = .ok verdict := by
  cases hpasses' : (ofPattern settings' p).passes haystack with
  | false =>
    rw [verdict_search_of_stopped cache' hpasses', verdict_of_stopped hpasses' hword h]
  | true =>
    have hpasses := passes_of_passes hrelaxed.prefilter hpasses'
    rw [verdict_search_of_passes cache hpasses hword] at h
    rw [verdict_search_of_passes cache' hpasses' hword]
    exact Pattern.answer_of_relaxed (hrelaxed.limitFor p) h

/-- The two engines, asked for by name, answer alike. -/
theorem verdict_of_engines (hengine : settings.engine = .backtrack)
    (hengine' : settings'.engine = .table)
    (hprefilter : settings.usesPrefilter = settings'.usesPrefilter)
    (hlimit : settings.tableSizeLimit = settings'.tableSizeLimit)
    (hword : (haystack.length + 1) * (p.length + 1) ≤ wordMax) (cache cache' : MatcherCache) :
    ((ofPattern settings p).search cache haystack).verdict =
      ((ofPattern settings' p).search cache' haystack).verdict := by
  have hpasses :
      (ofPattern settings p).passes haystack = (ofPattern settings' p).passes haystack := by
    rw [passes_ofPattern, passes_ofPattern, hprefilter]
  have hlimitFor : settings.limitFor p = settings'.limitFor p := by
    rw [MatcherSettings.limitFor, MatcherSettings.limitFor, hengine, hengine', hlimit]
    simp
  cases hpasses' : (ofPattern settings' p).passes haystack with
  | false =>
    rw [verdict_search_of_stopped cache (hpasses.trans hpasses'),
      verdict_search_of_stopped cache' hpasses']
  | true =>
    rw [verdict_search_of_passes cache (hpasses.trans hpasses') hword,
      verdict_search_of_passes cache' hpasses' hword, hlimitFor]

/-- Turning the prefilter on leaves every result as it was but for some refusals, of haystacks that it
stops and that do not match. -/
theorem verdict_of_prefilter (hprefilter : settings'.usesPrefilter = true)
    (hengine : settings.engine = settings'.engine)
    (hlimit : settings.tableSizeLimit = settings'.tableSizeLimit)
    (hword : (haystack.length + 1) * (p.length + 1) ≤ wordMax) (cache cache' : MatcherCache) :
    ((ofPattern settings' p).search cache' haystack).verdict =
        ((ofPattern settings p).search cache haystack).verdict ∨
      (∃ refusal, ((ofPattern settings p).search cache haystack).verdict = .error refusal) ∧
        ((ofPattern settings' p).search cache' haystack).verdict = .ok false := by
  cases hpasses' : (ofPattern settings' p).passes haystack with
  | false =>
    rw [verdict_search_of_stopped cache' hpasses']
    cases hverdict : ((ofPattern settings p).search cache haystack).verdict with
    | error refusal => exact .inr ⟨⟨refusal, rfl⟩, rfl⟩
    | ok verdict => rw [verdict_of_stopped hpasses' hword hverdict]; exact .inl rfl
  | true =>
    have hpasses : (ofPattern settings p).passes haystack = true :=
      passes_of_passes (fun _ => hprefilter) hpasses'
    have hlimitFor : settings.limitFor p = settings'.limitFor p := by
      rw [MatcherSettings.limitFor, MatcherSettings.limitFor, hengine, hlimit]
    rw [verdict_search_of_passes cache hpasses hword, verdict_search_of_passes cache' hpasses' hword,
      hlimitFor]
    exact .inl rfl

/-- A haystack that does not meet the condition of the prefilter gets a verdict while it is on. -/
theorem verdict_of_not_possible (cache : MatcherCache) {f : Prefilter}
    (hf : Prefilter.ofPattern? p = some f) (hpossible : f.isPossible haystack = false)
    (hprefilter : settings.usesPrefilter = true) :
    ((ofPattern settings p).search cache haystack).verdict = .ok false := by
  refine verdict_search_of_stopped cache ?_
  rw [passes_ofPattern, hf, hprefilter]
  simp [hpossible]

/-- Of one pattern, matchers that name one engine and the other answer alike, refusals included;
relaxed settings keep every verdict; the prefilter replaces some refusals by a no and changes nothing
else; and while it is on, a haystack that does not meet its condition is not refused. -/
theorem settings_decide_only_refusals (p : Pattern UInt8) (haystack : List UInt8)
    (hword : (haystack.length + 1) * (p.length + 1) ≤ wordMax) (settings settings' : MatcherSettings)
    (cache cache' : MatcherCache) :
    let verdict := ((ofPattern settings p).search cache haystack).verdict
    let verdict' := ((ofPattern settings' p).search cache' haystack).verdict
    (settings.engine = .backtrack → settings'.engine = .table →
      settings.usesPrefilter = settings'.usesPrefilter →
      settings.tableSizeLimit = settings'.tableSizeLimit → verdict = verdict') ∧
    (settings.RelaxedTo settings' → ∀ answer, verdict = .ok answer → verdict' = .ok answer) ∧
    (settings'.usesPrefilter = true → settings.engine = settings'.engine →
      settings.tableSizeLimit = settings'.tableSizeLimit →
      verdict' = verdict ∨ (∃ refusal, verdict = .error refusal) ∧ verdict' = .ok false) ∧
    ∀ f, Prefilter.ofPattern? p = some f → f.isPossible haystack = false →
      settings.usesPrefilter = true → verdict = .ok false := by
  refine ⟨?_, ?_, ?_, ?_⟩
  · intro hengine hengine' hprefilter hlimit
    exact verdict_of_engines hengine hengine' hprefilter hlimit hword cache cache'
  · intro hrelaxed answer hanswer
    exact verdict_of_relaxed hrelaxed hword cache' hanswer
  · intro hprefilter hengine hlimit
    exact verdict_of_prefilter hprefilter hengine hlimit hword cache cache'
  · intro f hf hpossible hprefilter
    exact verdict_of_not_possible cache hf hpossible hprefilter

/-- Both engines refuse a haystack without the literal that the pattern ends in, and the prefilter
stops it first. -/
theorem settings_decide_only_refusals_missing_literal :
    let p : Pattern UInt8 := ⟨[.lit 97, .star, .lit 98], rfl⟩
    let backtrack : MatcherSettings :=
      { engine? := some .backtrack, prefilter? := some false, tableSizeLimit? := some (some 8) }
    let table : MatcherSettings := { backtrack with engine? := some .table }
    let guarded : MatcherSettings := { backtrack with prefilter? := some true }
    let relaxed : MatcherSettings := {}
    let verdict (settings : MatcherSettings) := ((ofPattern settings p).search {} [97, 97]).verdict
    (([97, 97] : List UInt8).length + 1) * (p.length + 1) ≤ wordMax ∧ guarded.RelaxedTo relaxed ∧
      verdict backtrack = .error ⟨12, 8⟩ ∧ verdict backtrack = verdict table ∧
      (verdict guarded = verdict backtrack ∨
        (∃ refusal, verdict backtrack = .error refusal) ∧ verdict guarded = .ok false) ∧
      verdict guarded = .ok false ∧ verdict relaxed = .ok false := by
  intro p backtrack table guarded relaxed verdict
  have hword : (([97, 97] : List UInt8).length + 1) * (p.length + 1) ≤ wordMax := by decide
  have hrelaxed : guarded.RelaxedTo relaxed := ⟨.inr rfl, fun _ => rfl, nofun⟩
  obtain ⟨hengines, -, -, -⟩ := settings_decide_only_refusals p [97, 97] hword backtrack table {} {}
  obtain ⟨-, -, hprefilter, -⟩ :=
    settings_decide_only_refusals p [97, 97] hword backtrack guarded {} {}
  obtain ⟨-, hkept, -, hstopped⟩ :=
    settings_decide_only_refusals p [97, 97] hword guarded relaxed {} {}
  have hguarded : verdict guarded = .ok false := hstopped ⟨[98], 1, none⟩ rfl rfl rfl
  exact ⟨hword, hrelaxed, rfl, hengines rfl rfl rfl rfl, hprefilter rfl rfl rfl, hguarded,
    hkept hrelaxed false hguarded⟩

end Matcher

end StarMatch
