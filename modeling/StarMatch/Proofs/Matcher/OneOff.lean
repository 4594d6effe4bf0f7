import StarMatch.Search.OneOff
import StarMatch.Proofs.Matcher.Language
import StarMatch.Proofs.Pattern.Encoding

/-!
# One-off matches and matchers

A one-off match reads characters and a matcher reads bytes, so the two need not agree: a wildcard
takes a whole character in one and a single byte in the other, and a star behind a literal of several
bytes repeats the last of them only. Where neither can happen, they agree.
-/

namespace StarMatch

open Text

theorem cells_le_of_encode (text pattern : List Char) :
    (text.length + 1) * (pattern.length + 1) ≤
      ((Utf8.encode text).length + 1) * ((Utf8.encode pattern).length + 1) := by
  have htext := Utf8.length_le_length_encode text
  have hpattern := Utf8.length_le_length_encode pattern
  exact Nat.mul_le_mul (Nat.succ_le_succ htext) (Nat.succ_le_succ hpattern)

/-- A one-off match returns exactly if there is room for a table over the characters, and then says
whether the pattern matches the text. -/
theorem matchText_eq {text pattern : List Char} {p : Pattern Char}
    (hread : Pattern.ofChars {} pattern = .ok p) {verdict : Bool}
    (hverdict : verdict = true ↔ p.Matches text) :
    (matchText text pattern).map (Except.map Outcome.unwrapped) =
      .ok (if (text.length + 1) * (pattern.length + 1) ≤ roomMax then .ok (.ok verdict)
        else .error (.text "capacity overflow")) := by
  let b := Backtracker.ofPattern {} p
  have hmatch : matchText text pattern = .ok (b.searchInRoom {} (.ofList text)) := by
    rw [matchText, hread]
    rfl
  have hcells : ((Haystack.ofList text).length + 1) * (b.pattern.length + 1) =
      (text.length + 1) * (pattern.length + 1) := by
    rw [Haystack.length_ofList, ← Pattern.length_of_ofChars hread]
    rfl
  rw [hmatch, Except.map, ← hcells]
  split
  · next hroom =>
    have hword := Nat.le_trans hroom (Nat.le_of_lt roomMax_lt_wordMax)
    have hsearch : (b.search {} (.ofList text)).verdict = .ok verdict :=
      Backtracker.verdict_search_of_unlimited rfl hword (by rwa [Haystack.toList_ofList])
    rw [b.searchInRoom_of_le {} _ hroom, Except.map, Outcome.unwrapped, hsearch]
    rfl
  · next hroom =>
    have hlimit : ∀ l ∈ b.settings.tableSizeLimit,
        ((Haystack.ofList text).length + 1) * (b.pattern.length + 1) ≤ l := nofun
    rw [Backtracker.searchInRoom,
      searchInRoom_of_panic _ (roomPanic?_of_lt hlimit (Nat.lt_of_not_le hroom))]
    rfl

/-- If a pattern repeats no literal of several bytes, and repeats all its wildcards or is matched with
an ASCII text, a one-off match and a matcher give the same verdict, which is whether it matches, as long
as there is room for a table over the bytes. For longer texts and patterns each of them gives this verdict
if it returns, and the one-off match does so exactly if there is room for a table over the characters. -/
theorem matchText_agrees_with_matcher (text pattern : List Char) (p : Pattern Char)
    (hread : Pattern.ofChars {} pattern = .ok p) (hrepeats : ∀ a ∈ p.atoms, a.RepeatsAscii)
    (hwildcard : (∀ a ∈ p.atoms, a.RepeatsWildcard) ∨ ∀ c ∈ text, c.toNat < 0x80) :
    let bytes := Utf8.encode text
    ∃ verdict found matcher,
      (verdict = true ↔ p.Matches text) ∧ matchText text pattern = .ok found ∧
      MatcherBuilder.ofBytes {} (Utf8.encode pattern) = .ok matcher ∧
      ((bytes.length + 1) * ((Utf8.encode pattern).length + 1) ≤ roomMax →
        found.map Outcome.unwrapped = .ok (.ok verdict) ∧
        (matcher.searchInRoom {} bytes).map Outcome.unwrapped = .ok (.ok verdict)) ∧
      found.map Outcome.unwrapped =
        (if (text.length + 1) * (pattern.length + 1) ≤ roomMax then .ok (.ok verdict)
          else .error (.text "capacity overflow")) ∧
      ∀ outcome, matcher.searchInRoom {} bytes = .ok outcome → outcome.unwrapped = .ok verdict := by
  classical
  intro bytes
  obtain ⟨q, hbytes, hspelled⟩ := Pattern.exists_ofBytes_of_ofChars hread
  let found := (Backtracker.ofPattern {} p).searchInRoom {} (.ofList text)
  let matcher := Matcher.ofPattern {} q
  have hverdict : decide (p.Matches text) = true ↔ p.Matches text := decide_eq_true_iff
  have hagree : q.Matches bytes ↔ p.Matches text :=
    Pattern.matches_encode_iff hspelled hrepeats hwildcard
  have hmatch : matchText text pattern = .ok found := by
    rw [matchText, hread]
    rfl
  have hfound := matchText_eq hread hverdict
  rw [hmatch] at hfound
  replace hfound := Except.ok.inj hfound
  have hmatcher : ∀ outcome, matcher.searchInRoom {} bytes = .ok outcome →
      outcome.unwrapped = .ok (decide (p.Matches text)) := by
    intro outcome hreturns
    have hsearch := Matcher.verdict_of_searchInRoom rfl hreturns (hverdict.trans hagree.symm)
    rw [Outcome.unwrapped, hsearch]
    rfl
  refine ⟨decide (p.Matches text), found, matcher, hverdict, hmatch, ?_, ?_, hfound, hmatcher⟩
  · rw [MatcherBuilder.ofBytes, hbytes]
    rfl
  · intro hroom
    have hreturns : matcher.searchInRoom {} bytes = .ok (matcher.search {} bytes) := by
      refine Matcher.searchInRoom_of_le {} ?_
      rwa [Pattern.length_of_ofBytes hbytes]
    rw [if_pos (Nat.le_trans (cells_le_of_encode text pattern) hroom)] at hfound
    exact ⟨hfound, by rw [hreturns, Except.map, hmatcher _ hreturns]⟩

/-- A literal of two bytes between repeated wildcards, of which the second takes another character of
two bytes. -/
theorem matchText_agrees_with_matcher_wide_literal :
    let text := ['x', 'é', 'ä', 'b']
    let pattern := ['.', '*', 'é', '.', '*', 'b', '*']
    let p : Pattern Char := ⟨[.any, .star, .lit 'é', .any, .star, .lit 'b', .star], rfl⟩
    Pattern.ofChars {} pattern = .ok p ∧ (∀ a ∈ p.atoms, a.RepeatsAscii) ∧
      (∀ a ∈ p.atoms, a.RepeatsWildcard) ∧
      (matchText text pattern).map (Except.map Outcome.unwrapped) = .ok (.ok (.ok true)) ∧
      ∃ matcher, MatcherBuilder.ofBytes {} (Utf8.encode pattern) = .ok matcher ∧
        (matcher.searchInRoom {} (Utf8.encode text)).map Outcome.unwrapped = .ok (.ok true) ∧
        p.Matches text := by
  intro text pattern p
  have hread : Pattern.ofChars {} pattern = .ok p := rfl
  have hrepeats : ∀ a ∈ p.atoms, a.RepeatsAscii := by
    simp [p, Pattern.atoms, Atom.ofTokensFrom, Atom.RepeatsAscii]
  have hwildcard : ∀ a ∈ p.atoms, a.RepeatsWildcard := by
    simp [p, Pattern.atoms, Atom.ofTokensFrom, Atom.RepeatsWildcard]
  have hroom : ((Utf8.encode text).length + 1) * ((Utf8.encode pattern).length + 1) ≤ roomMax := by
    decide
  have hchars : (matchText text pattern).map (Except.map Outcome.unwrapped) = .ok (.ok (.ok true)) := by
    decide +kernel
  obtain ⟨verdict, found, matcher, hmatches, hfound, hbytes, hreturns, -, -⟩ :=
    matchText_agrees_with_matcher text pattern p hread hrepeats (.inl hwildcard)
  obtain ⟨hfirst, hsecond⟩ := hreturns hroom
  have htrue := hchars
  rw [hfound, Except.map, hfirst] at htrue
  obtain rfl : verdict = true := Except.ok.inj (Except.ok.inj (Except.ok.inj htrue))
  exact ⟨hread, hrepeats, hwildcard, hchars, matcher, hbytes, hsecond, hmatches.mp rfl⟩

/-- A text without reserved symbols spells itself. -/
theorem Pattern.ofChars_of_plain {text : List Char} (hplain : ∀ c ∈ text, c ≠ '.' ∧ c ≠ '*') :
    ofChars {} text = .ok (.literal text) := by
  have hchecked : ({} : ReservedSymbols).checked = .ok (0x2E, 0x2A) := rfl
  rw [ofChars, hchecked]
  refine ofTokens_eq_ok_iff.mpr ?_
  rw [tokens_literal]
  refine List.map_congr_left fun c hc => ?_
  obtain ⟨hdot, hasterisk⟩ := hplain c hc
  have hwildcard : (c == Char.ofUInt8 0x2E) = false := beq_false_of_ne hdot
  have hrepetition : (c == Char.ofUInt8 0x2A) = false := beq_false_of_ne hasterisk
  simp only [Token.ofSymbol, hwildcard, hrepetition, Bool.false_eq_true, if_false]

/-- A matcher finds a text without reserved symbols in itself, however long it is: it compares the bytes
and needs no table. -/
theorem Matcher.exists_match_of_plain {text : List Char} (hplain : ∀ c ∈ text, c ≠ '.' ∧ c ≠ '*')
    (hascii : ∀ c ∈ text, c.toNat < 0x80) :
    ∃ matcher, MatcherBuilder.ofBytes {} (Utf8.encode text) = .ok matcher ∧
      (matcher.searchInRoom {} (Utf8.encode text)).map Outcome.unwrapped = .ok (.ok true) := by
  obtain ⟨q, hbytes, hspelled⟩ := Pattern.exists_ofBytes_of_ofChars (Pattern.ofChars_of_plain hplain)
  have hstar : .star ∉ (Pattern.literal text).tokens := by simp
  have hrepeats : ∀ a ∈ (Pattern.literal text).atoms, a.RepeatsAscii := fun a ha hrepeated =>
    absurd (Pattern.star_mem_of_repeated ha hrepeated) hstar
  have hrepetition : q.hasRepetition = false := by
    rw [Bool.eq_false_iff, Ne, Pattern.hasRepetition_iff, hspelled, star_mem_spell_iff]
    exact hstar
  have hmatches : q.Matches (Utf8.encode text) :=
    (Pattern.matches_encode_iff hspelled hrepeats (.inr hascii)).mpr (Pattern.matches_literal text)
  have hreturns : (ofPattern {} q).searchInRoom {} (Utf8.encode text) =
      .ok ((ofPattern {} q).search {} (Utf8.encode text)) :=
    searchInRoom_of_hasRepetition {} rfl hrepetition
  have hverdict := verdict_of_searchInRoom rfl hreturns (iff_of_true rfl hmatches)
  refine ⟨ofPattern {} q, ?_, ?_⟩
  · rw [MatcherBuilder.ofBytes, hbytes]
    rfl
  · rw [hreturns, Except.map, Outcome.unwrapped, hverdict]
    rfl

/-- A text of 3037000500 letters is found by a matcher, and there is no room for a table over its
characters, though a word counts the cells of the one over its bytes. -/
theorem longest_text_has_no_one_off_match :
    let text := List.replicate 3037000500 'a'
    let bytes := Utf8.encode text
    ∃ p matcher, Pattern.ofChars {} text = .ok p ∧ (∀ a ∈ p.atoms, a.RepeatsAscii) ∧
      (∀ c ∈ text, c.toNat < 0x80) ∧ (bytes.length + 1) * (bytes.length + 1) ≤ wordMax ∧
      MatcherBuilder.ofBytes {} bytes = .ok matcher ∧
      (matcher.searchInRoom {} bytes).map Outcome.unwrapped = .ok (.ok true) ∧
      (matchText text text).map (Except.map Outcome.unwrapped) =
        .ok (.error (.text "capacity overflow")) := by
  intro text bytes
  have hletter : ∀ c ∈ text, c = 'a' := fun c hc => List.eq_of_mem_replicate hc
  have hplain : ∀ c ∈ text, c ≠ '.' ∧ c ≠ '*' := by
    intro c hc
    rw [hletter c hc]
    decide
  have hascii : ∀ c ∈ text, c.toNat < 0x80 := by
    intro c hc
    rw [hletter c hc]
    decide
  have hread := Pattern.ofChars_of_plain hplain
  have hlength : text.length = 3037000500 := List.length_replicate
  have hbytes : bytes.length = 3037000500 := by
    rw [← hlength]
    exact Utf8.length_encode_of_ascii hascii
  obtain ⟨matcher, hmatcher, hfound⟩ := Matcher.exists_match_of_plain hplain hascii
  refine ⟨.literal text, matcher, hread, ?_, hascii, ?_, hmatcher, hfound, ?_⟩
  · intro a ha hrepeated
    exact absurd (Pattern.star_mem_of_repeated ha hrepeated) (by simp)
  · rw [hbytes]
    decide
  · rw [matchText_eq hread (iff_of_true rfl (Pattern.matches_literal text)), hlength]
    rw [if_neg (by decide)]

end StarMatch
