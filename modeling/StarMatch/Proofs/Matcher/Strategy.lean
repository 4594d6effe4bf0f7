import StarMatch.Matcher.Strategy
import StarMatch.Proofs.Pattern.Length
import StarMatch.Proofs.Search.Decision

/-!
# All strategies decide the same language

Comparing a haystack with the literals of a pattern, or position by position with its tokens, decides
whether the pattern matches it where the pattern has no repetition. So the choice of a strategy has
no part in a verdict; it only decides whether the search needs a table, and can be refused for it or
stopped for want of room.
-/

namespace StarMatch

/-- The limit that a search works under. A pattern without repetition needs no table unless an
engine has been asked for. -/
def MatcherSettings.limitFor (settings : MatcherSettings) (p : Pattern UInt8) : Option Nat :=
  if settings.engine = .auto ∧ p.hasRepetition = false then none else settings.tableSizeLimit

namespace Strategy

variable {p : Pattern UInt8} {haystack : List UInt8}

theorem acceptsEach_iff_forall₂ {tokens : List (Token UInt8)} :
    acceptsEach tokens haystack = true ↔
      List.Forall₂ (fun token b => token.accepts b = true) tokens haystack := by
  rw [acceptsEach, Bool.and_eq_true, beq_iff_eq, List.all_eq_true, List.forall₂_iff_zip, Prod.forall]

theorem tokens_eq_map_lit (h : p.isLiteral = true) :
    p.tokens = (p.tokens.filterMap Token.literal?).map Token.lit := by
  have hlit : ∀ token ∈ p.tokens, ∃ b, token = .lit b := by
    intro token htoken
    have hsome := List.all_eq_true.mp h token htoken
    cases token with
    | lit b => exact ⟨b, rfl⟩
    | any => cases hsome
    | star => cases hsome
  generalize p.tokens = tokens at hlit
  induction tokens with
  | nil => rfl
  | cons token rest ih =>
    obtain ⟨b, rfl⟩ := hlit token List.mem_cons_self
    have hrest := ih fun token htoken => hlit token (List.mem_cons_of_mem _ htoken)
    rw [List.filterMap_cons, Token.literal?, List.map_cons, ← hrest]

theorem hasRepetition_of_isLiteral (h : p.isLiteral = true) : p.hasRepetition = false := by
  rw [Pattern.hasRepetition, List.any_eq_false]
  intro token htoken hstar
  have hsome := List.all_eq_true.mp h token htoken
  rw [Token.isStar_iff.mp hstar] at hsome
  cases hsome

/-- A pattern of literals matches its literals and nothing else. -/
theorem matches_iff_of_isLiteral (h : p.isLiteral = true) :
    p.Matches haystack ↔ haystack = p.tokens.filterMap Token.literal? := by
  have haccepts : (fun expected b => (Token.lit expected).accepts b = true) =
      (Eq : UInt8 → UInt8 → Prop) := by
    funext expected b
    exact propext beq_iff_eq
  rw [Pattern.matches_iff_forall₂ (hasRepetition_of_isLiteral h)]
  -- The literals on the right are read off the tokens too and must stay as they are.
  conv_lhs => rw [tokens_eq_map_lit h]
  rw [List.forall₂_map_left_iff, haccepts, List.forall₂_eq_eq_eq]
  exact eq_comm

/-- A search without limit is answered by whether the pattern matches. -/
theorem ok_eq_answer {verdict : Bool} (h : verdict = true ↔ p.Matches haystack) :
    .ok verdict = p.answer none (.ofList haystack) := by
  refine (Pattern.answer_of_admitted rfl ?_).symm
  rw [Haystack.toList_ofList]
  exact h

/-- The strategy that is chosen for a pattern gives the answer to the search, under the limit that
the search works under. Where it is an engine, a word must count the cells of the table. -/
theorem verdict_search_choose (settings : MatcherSettings) (p : Pattern UInt8) (cache : MatcherCache)
    (haystack : List UInt8) (hword : settings.engine = .auto ∧ p.hasRepetition = false ∨
      (haystack.length + 1) * (p.length + 1) ≤ wordMax) :
    ((choose settings p).search cache haystack).verdict =
      p.answer (settings.limitFor p) (.ofList haystack) := by
  rw [← Haystack.length_ofList haystack] at hword
  have hbacktrack (h : ((Haystack.ofList haystack).length + 1) * (p.length + 1) ≤ wordMax) :
      ((backtrack ⟨{ tableSizeLimit? := some settings.tableSizeLimit }, p⟩).search cache
        haystack).verdict = p.answer settings.tableSizeLimit (.ofList haystack) :=
    Backtracker.verdict_search _ cache.backtrack (.ofList haystack) h
  have htable (h : ((Haystack.ofList haystack).length + 1) * (p.length + 1) ≤ wordMax) :
      ((table ⟨{ tableSizeLimit? := some settings.tableSizeLimit }, p⟩).search cache
        haystack).verdict = p.answer settings.tableSizeLimit (.ofList haystack) :=
    TableMatcher.verdict_search _ cache.table (.ofList haystack) h
  rw [MatcherSettings.limitFor]
  cases hengine : settings.engine with
  | backtrack =>
    rw [if_neg fun hauto => nomatch hauto.1]
    simpa only [choose, hengine] using hbacktrack (by simpa [hengine] using hword)
  | table =>
    rw [if_neg fun hauto => nomatch hauto.1]
    simpa only [choose, hengine] using htable (by simpa [hengine] using hword)
  | auto =>
    by_cases hliteral : p.isLiteral = true
    · have hrepetition := hasRepetition_of_isLiteral hliteral
      rw [if_pos ⟨rfl, hrepetition⟩]
      simp only [choose, hengine, hliteral, if_true]
      exact ok_eq_answer (beq_iff_eq.trans (matches_iff_of_isLiteral hliteral).symm)
    · cases hrepetition : p.hasRepetition with
      | false =>
        rw [if_pos ⟨rfl, rfl⟩]
        simp only [choose, hengine, hliteral, hrepetition, Bool.not_false, if_true]
        exact ok_eq_answer
          (acceptsEach_iff_forall₂.trans (Pattern.matches_iff_forall₂ hrepetition).symm)
      | true =>
        rw [if_neg fun hauto => nomatch hauto.2]
        simp only [choose, hengine, hliteral, hrepetition]
        exact hbacktrack (by simpa [hrepetition] using hword)

/-- Only a strategy that needs a table can find no room. -/
theorem roomPanic?_choose (settings : MatcherSettings) (p : Pattern UInt8) (haystackLength : Nat) :
    (choose settings p).roomPanic? haystackLength =
      if settings.engine = .auto ∧ p.hasRepetition = false then none
      else StarMatch.roomPanic? haystackLength p.length settings.tableSizeLimit := by
  cases hengine : settings.engine with
  | backtrack =>
    rw [if_neg fun hauto => nomatch hauto.1]
    simp only [choose, hengine]
    rfl
  | table =>
    rw [if_neg fun hauto => nomatch hauto.1]
    simp only [choose, hengine]
    rfl
  | auto =>
    by_cases hliteral : p.isLiteral = true
    · rw [if_pos ⟨rfl, hasRepetition_of_isLiteral hliteral⟩]
      simp only [choose, hengine, hliteral, if_true]
      rfl
    · cases hrepetition : p.hasRepetition with
      | false =>
        rw [if_pos ⟨rfl, rfl⟩]
        simp only [choose, hengine, hliteral, hrepetition, Bool.not_false, if_true]
        rfl
      | true =>
        rw [if_neg fun hauto => nomatch hauto.2]
        simp only [choose, hengine, hliteral, hrepetition]
        rfl

end Strategy

end StarMatch
