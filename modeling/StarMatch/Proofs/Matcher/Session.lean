import StarMatch.Matcher.Session
import StarMatch.Proofs.Matcher.Scratch

/-!
# Searches of a session

Whatever has been done in a session, a search answers as if its matcher and its cache were new. What
shows of the past is the memory that a cache holds: it comes from a search that entered an engine,
made with the cache itself or with one that it goes back to through copies.
-/

namespace StarMatch

theorem exists_of_map_eq_ok {ε α β : Type} {x : Except ε α} {f : α → β} {b : β}
    (h : x.map f = .ok b) : ∃ a, b = f a := by
  cases x with
  | error e => cases h
  | ok a => exact ⟨a, (Except.ok.inj h).symm⟩

/-- Whatever a matcher is built from, it is that of a pattern. -/
theorem MatcherBuilder.exists_pattern_of_ofSource {b : MatcherBuilder} {source : PatternSource}
    {m : Matcher} (h : b.ofSource source = .ok m) : ∃ p, m = b.ofPattern p := by
  cases source with
  | text text => exact exists_of_map_eq_ok h
  | tokens tokens => exact exists_of_map_eq_ok h
  | literal bytes => exact ⟨_, (Except.ok.inj h).symm⟩
  | empty => exact ⟨_, (Except.ok.inj h).symm⟩

namespace Session

/-- The session after a list of actions. -/
def after (s : Session) (actions : List Action) : Session :=
  actions.foldl (fun s a => (s.act a).1) s

/-- The name that a cache had before an action, unless the action made it new. -/
def Action.source? : Action → String → Option String
  | .newCache new, name => if name = new then none else some name
  | .copyCache source copy, name => some (if name = copy then source else name)
  | _, name => some name

/-- The action is a search with the named cache that gets past the prefilter and past the limit of
an engine. -/
def Enters (s : Session) (a : Action) (name : String) : Prop :=
  ∃ matcher haystack m,
    a = .search matcher name haystack ∧ s.matcher? matcher = some m ∧ m.Enters haystack

/-- What holds of a session at any time: its matchers are as they were built, and its caches hold
memory exactly if they have cells. -/
structure Coherent (s : Session) : Prop where
  matchers : ∀ name m, s.matcher? name = some m → m = .ofPattern m.settings m.pattern
  caches : ∀ name, (s.cache name).Backed

section Run

variable (s : Session) (before later : List Action) (a : Action)

theorem after_cons : s.after (a :: later) = (s.act a).1.after later := rfl

end Run

variable {s : Session} {name : String}

theorem cache_putCache (s : Session) (name other : String) (c : MatcherCache) :
    (s.putCache name c).cache other = if other = name then c else s.cache other := by
  rw [cache, putCache, List.lookup_cons]
  by_cases h : other = name
  · rw [if_pos h, beq_iff_eq.mpr h]
    rfl
  · rw [if_neg h, beq_false_of_ne h]
    rfl

theorem matcher?_putMatcher (s : Session) (name other : String) (m : Matcher) :
    (s.putMatcher name m).matcher? other = if other = name then some m else s.matcher? other := by
  rw [matcher?, putMatcher, List.lookup_cons]
  by_cases h : other = name
  · rw [if_pos h, beq_iff_eq.mpr h]
  · rw [if_neg h, beq_false_of_ne h]
    rfl

theorem cache_install (s : Session) (name other : String) (result : Except PatternError Matcher) :
    (s.install name result).1.cache other = s.cache other := by
  cases result with
  | error e => rfl
  | ok m => rfl

theorem matcher?_install {result : Except PatternError Matcher} {other : String} {m : Matcher}
    (h : (s.install name result).1.matcher? other = some m) :
    s.matcher? other = some m ∨ result = .ok m := by
  cases result with
  | error e => exact .inl h
  | ok built =>
    rw [install, matcher?_putMatcher] at h
    split at h
    · exact .inr (congrArg Except.ok (Option.some.inj h))
    · exact .inl h

/-- A matcher that is there after an action was there before, or has just been built. -/
theorem matcher?_act {a : Action} {m : Matcher} (h : (s.act a).1.matcher? name = some m) :
    (∃ source, s.matcher? source = some m) ∨ ∃ settings p, m = .ofPattern settings p := by
  cases a with
  | configure settings => exact .inl ⟨name, h⟩
  | reserve reserved => exact .inl ⟨name, h⟩
  | reset => exact .inl ⟨name, h⟩
  | newCache new => exact .inl ⟨name, h⟩
  | copyCache source copy => exact .inl ⟨name, h⟩
  | build new source =>
    rcases matcher?_install h with hkept | hbuilt
    · exact .inl ⟨name, hkept⟩
    · obtain ⟨p, hp⟩ := MatcherBuilder.exists_pattern_of_ofSource hbuilt
      exact .inr ⟨s.builder.settings, p, hp⟩
  | compile new text =>
    rcases matcher?_install h with hkept | hbuilt
    · exact .inl ⟨name, hkept⟩
    · obtain ⟨p, hp⟩ := exists_of_map_eq_ok hbuilt
      exact .inr ⟨_, p, hp⟩
  | copyMatcher source copy =>
    cases hsource : s.matcher? source with
    | none =>
      simp only [act, hsource] at h
      exact .inl ⟨name, h⟩
    | some copied =>
      simp only [act, hsource, matcher?_putMatcher] at h
      split at h
      · exact .inl ⟨source, hsource.trans h⟩
      · exact .inl ⟨name, h⟩
  | search matcher cache haystack =>
    cases hmatcher : s.matcher? matcher with
    | none =>
      simp only [act, hmatcher] at h
      exact .inl ⟨name, h⟩
    | some used =>
      simp only [act, hmatcher] at h
      exact .inl ⟨name, h⟩
  | isMatch matcher haystack =>
    cases hmatcher : s.matcher? matcher with
    | none =>
      simp only [act, hmatcher] at h
      exact .inl ⟨name, h⟩
    | some used =>
      simp only [act, hmatcher] at h
      exact .inl ⟨name, h⟩

/-- What an action can do to the cache of a name: make it new, make it a copy, leave it as a search
leaves it, or nothing. -/
theorem cache_act (s : Session) (a : Action) (name : String) :
    (a = .newCache name ∧ (s.act a).1.cache name = {}) ∨
      (∃ source, a = .copyCache source name ∧ (s.act a).1.cache name = (s.cache source).copy) ∨
      (∃ matcher haystack m, a = .search matcher name haystack ∧ s.matcher? matcher = some m ∧
        (s.act a).1.cache name = (m.search (s.cache name) haystack).cache) ∨
      (a.source? name = some name ∧ ¬ s.Enters a name ∧ (s.act a).1.cache name = s.cache name) := by
  -- An action that writes no cache leaves that of the name alone, under the same name.
  have hquiet (hsource : a.source? name = some name)
      (hsearch : ∀ matcher haystack, a ≠ .search matcher name haystack)
      (hcache : (s.act a).1.cache name = s.cache name) :
      a.source? name = some name ∧ ¬ s.Enters a name ∧ (s.act a).1.cache name = s.cache name :=
    ⟨hsource, fun ⟨matcher, haystack, _, ha, _⟩ => hsearch matcher haystack ha, hcache⟩
  cases a with
  | configure settings => exact .inr (.inr (.inr (hquiet rfl nofun rfl)))
  | reserve reserved => exact .inr (.inr (.inr (hquiet rfl nofun rfl)))
  | reset => exact .inr (.inr (.inr (hquiet rfl nofun rfl)))
  | newCache new =>
    have hcache : (s.act (.newCache new)).1.cache name = if name = new then {} else s.cache name :=
      cache_putCache s new name {}
    by_cases hname : name = new
    · rw [if_pos hname] at hcache
      exact .inl ⟨by rw [hname], hcache⟩
    · rw [if_neg hname] at hcache
      exact .inr (.inr (.inr (hquiet (if_neg hname) nofun hcache)))
  | copyCache source copy =>
    have hcache : (s.act (.copyCache source copy)).1.cache name =
        if name = copy then (s.cache source).copy else s.cache name :=
      cache_putCache s copy name (s.cache source).copy
    by_cases hname : name = copy
    · rw [if_pos hname] at hcache
      exact .inr (.inl ⟨source, by rw [hname], hcache⟩)
    · rw [if_neg hname] at hcache
      exact .inr (.inr (.inr (hquiet (congrArg some (if_neg hname)) nofun hcache)))
  | build new source => exact .inr (.inr (.inr (hquiet rfl nofun (cache_install _ _ _ _))))
  | compile new text => exact .inr (.inr (.inr (hquiet rfl nofun (cache_install _ _ _ _))))
  | copyMatcher source copy =>
    refine .inr (.inr (.inr (hquiet rfl nofun ?_)))
    cases hsource : s.matcher? source with
    | none => simp only [act, hsource]
    | some copied =>
      simp only [act, hsource]
      rfl
  | search matcher used haystack =>
    cases hmatcher : s.matcher? matcher with
    | none =>
      refine .inr (.inr (.inr ⟨rfl, ?_, ?_⟩))
      · rintro ⟨matcher', haystack', m, ha, hm, -⟩
        cases ha
        cases hmatcher.symm.trans hm
      · simp only [act, hmatcher]
    | some m =>
      have hcache : (s.act (.search matcher used haystack)).1.cache name =
          if name = used then (m.search (s.cache used) haystack).cache else s.cache name := by
        simp only [act, hmatcher, cache_putCache]
      by_cases hname : name = used
      · subst hname
        rw [if_pos rfl] at hcache
        exact .inr (.inr (.inl ⟨matcher, haystack, m, rfl, hmatcher, hcache⟩))
      · rw [if_neg hname] at hcache
        refine .inr (.inr (.inr (hquiet rfl ?_ hcache)))
        intro matcher' haystack' ha
        cases ha
        exact hname rfl
  | isMatch matcher haystack =>
    refine .inr (.inr (.inr (hquiet rfl nofun ?_)))
    cases hmatcher : s.matcher? matcher with
    | none => simp only [act, hmatcher]
    | some m => simp only [act, hmatcher]

theorem Coherent.act (h : s.Coherent) (a : Action) : (s.act a).1.Coherent := by
  refine ⟨?_, ?_⟩
  · intro name m hm
    rcases matcher?_act hm with ⟨source, hsource⟩ | ⟨settings, p, rfl⟩
    · exact h.matchers source m hsource
    · rfl
  · intro name
    rcases cache_act s a name with
      ⟨-, hcache⟩ | ⟨source, -, hcache⟩ | ⟨matcher, haystack, m, -, -, hcache⟩ | ⟨-, -, hcache⟩
    · rw [hcache]
      exact MatcherCache.backed_new
    · rw [hcache]
      exact MatcherCache.backed_copy (s.cache source)
    · rw [hcache]
      exact Matcher.backed_search (h.caches name)
    · rw [hcache]
      exact h.caches name

theorem Coherent.after (h : s.Coherent) (actions : List Action) : (s.after actions).Coherent := by
  induction actions generalizing s with
  | nil => exact h
  | cons a actions ih =>
    rw [after_cons]
    exact ih (h.act a)

end Session

end StarMatch
