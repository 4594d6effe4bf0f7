import StarMatch.Proofs.Matcher.OneOff
import StarMatch.Proofs.Matcher.Scratch
import StarMatch.Proofs.Matcher.Settings

/-!
# Searching the bytes of a text

Whether a pattern matches can be decided without an engine, by trying all pieces of each atom. The
bytes of a text are the haystack of a matcher: with any cache, the search is refused, or it says
whether the pattern matches them, and the cache has no part in which of the two it is.
-/

namespace StarMatch

universe u

section Decidable

variable {σ : Type u} [BEq σ] {a : Atom σ} {atoms : List (Atom σ)} {symbols : List σ}

instance Atom.decidableTakes (a : Atom σ) (piece : List σ) : Decidable (a.Takes piece) :=
  inferInstanceAs <| Decidable <|
    (a.repeated = false → piece.length = 1) ∧ ∀ s ∈ piece, a.token.accepts s = true

/-- The first piece is known by its length. -/
theorem cut_cons_iff_exists_take :
    Cut (a :: atoms) symbols ↔
      ∃ k < symbols.length + 1, a.Takes (symbols.take k) ∧ Cut atoms (symbols.drop k) := by
  rw [cut_cons_iff]
  constructor
  · rintro ⟨piece, rest, rfl, hpiece, hrest⟩
    refine ⟨piece.length, ?_, ?_, ?_⟩
    · rw [List.length_append]
      omega
    · rwa [List.take_left]
    · rwa [List.drop_left]
  · rintro ⟨k, -, hpiece, hrest⟩
    exact ⟨_, _, (List.take_append_drop k symbols).symm, hpiece, hrest⟩

instance decidableCut : (atoms : List (Atom σ)) → (symbols : List σ) → Decidable (Cut atoms symbols)
  | [], symbols => decidable_of_iff (symbols.isEmpty = true) (by simp)
  | _ :: atoms, symbols =>
    have (k : Nat) : Decidable (Cut atoms (symbols.drop k)) := decidableCut atoms (symbols.drop k)
    decidable_of_iff _ cut_cons_iff_exists_take.symm

instance Pattern.decidableMatches (p : Pattern σ) (symbols : List σ) : Decidable (p.Matches symbols) :=
  decidableCut p.atoms symbols

end Decidable

/-- The pattern matches the bytes of the text in full. -/
def Pattern.MatchesText (p : Pattern UInt8) (text : String) : Prop :=
  p.Matches (Text.Utf8.encode text.toList)

instance (p : Pattern UInt8) (text : String) : Decidable (p.MatchesText text) :=
  p.decidableMatches _

namespace Matcher

/-- The search of the bytes of the text, with a new cache, is refused. -/
def RefusesText (m : Matcher) (text : String) : Prop :=
  ∃ refusal, (m.search {} (Text.Utf8.encode text.toList)).verdict = .error refusal

instance (m : Matcher) (text : String) : Decidable (m.RefusesText text) :=
  match h : (m.search {} (Text.Utf8.encode text.toList)).verdict with
  | .error refusal => .isTrue ⟨refusal, h⟩
  | .ok _ => .isFalse fun ⟨_, hrefused⟩ => nomatch h.symm.trans hrefused

variable {m : Matcher} {settings : MatcherSettings} {p : Pattern UInt8} {text : String}

theorem RefusesText.exists_refusal (h : m.RefusesText text) (cache : MatcherCache) :
    ∃ refusal, (m.search cache (Text.Utf8.encode text.toList)).verdict = .error refusal := by
  obtain ⟨refusal, hrefused⟩ := h
  exact ⟨refusal, (m.verdict_search_eq_new cache _).trans hrefused⟩

/-- Without a limit, the search says whether the pattern matches. -/
theorem verdict_search_text_of_unlimited (hlimit : settings.tableSizeLimit = none)
    (hword : ((Text.Utf8.encode text.toList).length + 1) * (p.length + 1) ≤ wordMax)
    (cache : MatcherCache) :
    ((ofPattern settings p).search cache (Text.Utf8.encode text.toList)).verdict =
      .ok (decide (p.MatchesText text)) := by
  refine verdict_search_of_unlimited hlimit (fun _ => .inr hword) ?_
  exact decide_eq_true_iff

/-- A search that is not refused says whether the pattern matches. -/
theorem verdict_search_of_not_refusesText
    (hword : ((Text.Utf8.encode text.toList).length + 1) * (p.length + 1) ≤ wordMax)
    (h : ¬ (ofPattern settings p).RefusesText text) (cache : MatcherCache) :
    ((ofPattern settings p).search cache (Text.Utf8.encode text.toList)).verdict =
      .ok (decide (p.MatchesText text)) := by
  rw [verdict_search_eq_new]
  cases hverdict : ((ofPattern settings p).search {} (Text.Utf8.encode text.toList)).verdict with
  | error refusal => exact absurd ⟨refusal, hverdict⟩ h
  | ok verdict =>
    -- The default settings are the most relaxed ones, and under them nothing is refused.
    have hrelaxed : settings.RelaxedTo {} := ⟨.inr rfl, fun _ => rfl, nofun⟩
    have hdefault := verdict_of_relaxed hrelaxed hword {} hverdict
    exact hdefault.symm.trans (verdict_search_text_of_unlimited rfl hword {})

/-- Without a limit no search is refused. -/
theorem not_refusesText_of_unlimited (hlimit : settings.tableSizeLimit = none)
    (hword : ((Text.Utf8.encode text.toList).length + 1) * (p.length + 1) ≤ wordMax) :
    ¬ (ofPattern settings p).RefusesText text := by
  intro hrefuses
  obtain ⟨refusal, hrefused⟩ := hrefuses
  cases (verdict_search_text_of_unlimited hlimit hword {}).symm.trans hrefused

end Matcher

end StarMatch
