import StarMatch.Proofs.Matcher.Strategy
import StarMatch.Proofs.Pattern.Samples

/-!
# What the shape of a pattern says about its matches

A matcher looks at three things when it chooses how to search: whether a pattern has a repetition, how
many symbols it asks for, and whether all of its tokens are literals. These say which lengths the
haystacks have in which an engine finds a match, as long as there is room for the table, and whether there
is only one such haystack.
-/

namespace StarMatch.Pattern

variable {p : Pattern UInt8} {haystack : List UInt8}

/-- A search that always gives what the caller is to get finds a match exactly if there is one and there is
room for the table. -/
theorem finds_iff {κ : Type} {search : κ → Except Panic (Except TableTooBig Bool)} (cache : κ)
    (h : ∀ cache, search cache = p.answerInRoom none (.ofList haystack)) :
    (∀ cache, search cache = .ok (.ok true)) ↔
      p.Matches haystack ∧ (haystack.length + 1) * (p.length + 1) ≤ roomMax := by
  have hanswer : p.answerInRoom none (.ofList haystack) = .ok (.ok true) ↔ _ :=
    answerInRoom_none_eq_true_iff
  rw [Haystack.toList_ofList, Haystack.length_ofList] at hanswer
  rw [← hanswer]
  exact ⟨fun hfinds => (h cache).symm.trans (hfinds cache), fun htrue cache => (h cache).trans htrue⟩

/-- Among the haystacks that there is room for, exactly one matches if and only if all tokens are
literals. -/
theorem existsUnique_in_room_iff_isLiteral (hroom : (p.length + 1) * (p.length + 1) ≤ roomMax) :
    (∃! haystack, p.Matches haystack ∧ (haystack.length + 1) * (p.length + 1) ≤ roomMax) ↔
      p.isLiteral = true := by
  -- A haystack that is no longer than the pattern has as much room.
  have hshort : ∀ haystack : List UInt8, haystack.length ≤ p.length →
      (haystack.length + 1) * (p.length + 1) ≤ roomMax :=
    fun haystack hle => Nat.le_trans (Nat.mul_le_mul_right _ (Nat.succ_le_succ hle)) hroom
  constructor
  · intro hunique
    have hne : (0 : UInt8) ≠ 1 := by decide
    refine isLiteral_of_unique hne fun symbols symbols' hle hle' hmatches hmatches' => ?_
    exact hunique.unique ⟨hmatches, hshort symbols hle⟩ ⟨hmatches', hshort symbols' hle'⟩
  · intro hliteral
    have hmatches := (Strategy.matches_iff_of_isLiteral hliteral).mpr rfl
    have hlength := ((matches_iff_forall₂ (Strategy.hasRepetition_of_isLiteral hliteral)).mp
      hmatches).length_eq
    refine ⟨_, ⟨hmatches, hshort _ (Nat.le_of_eq hlength.symm)⟩, ?_⟩
    rintro haystack ⟨hmatches', -⟩
    exact (Strategy.matches_iff_of_isLiteral hliteral).mp hmatches'

/-- Without a limit, both engines find a match in the haystacks that match and that there is room for; for
any longer haystack they stop their caller. So without repetition they find one in haystacks of the
pattern's own length and of no other, with one in some haystack of every length that the pattern asks for
at least, and in exactly one haystack if and only if all tokens are literals: all this as far as there is
room for the table. -/
theorem shape_says_lengths (p : Pattern UInt8) (builder : SearchBuilder)
    (hlimit : builder.settings.tableSizeLimit = none) :
    let search cache (haystack : List UInt8) :=
      (Backtracker.ofPattern builder p).searchInRoom cache (.ofList haystack)
    let search' cache (haystack : List UInt8) :=
      (TableMatcher.ofPattern builder p).searchInRoom cache (.ofList haystack)
    let found haystack := ∀ cache, (search cache haystack).map Outcome.verdict = .ok (.ok true)
    let found' haystack := ∀ cache, (search' cache haystack).map Outcome.verdict = .ok (.ok true)
    let room (length : Nat) := (length + 1) * (p.length + 1) ≤ roomMax
    (∀ haystack, found haystack ↔ p.Matches haystack ∧ room haystack.length) ∧
    (∀ haystack, found' haystack ↔ found haystack) ∧
    (p.hasRepetition = false →
      ∀ n, (∃ haystack, haystack.length = n ∧ found haystack) ↔ n = p.length ∧ room n) ∧
    (p.hasRepetition = true →
      ∀ n, (∃ haystack, haystack.length = n ∧ found haystack) ↔ p.minLength ≤ n ∧ room n) ∧
    (room p.length → ((∃! haystack, found haystack) ↔ p.isLiteral = true)) ∧
    ∀ haystack, ¬ room haystack.length → ∀ cache cache',
      search cache haystack = .error (.text "capacity overflow") ∧
      search' cache' haystack = .error (.text "capacity overflow") := by
  intro search search' found found' room
  have hfound : ∀ haystack, found haystack ↔ p.Matches haystack ∧ room haystack.length := by
    intro haystack
    refine finds_iff {} fun cache => ?_
    rw [← hlimit]
    exact Backtracker.map_verdict_searchInRoom (.ofPattern builder p) cache (.ofList haystack)
  have hfound' : ∀ haystack, found' haystack ↔ p.Matches haystack ∧ room haystack.length := by
    intro haystack
    refine finds_iff {} fun cache => ?_
    rw [← hlimit]
    exact TableMatcher.map_verdict_searchInRoom (.ofPattern builder p) cache (.ofList haystack)
  -- A length that some match has is one that is found if there is room.
  have hlengths : ∀ n, (∃ haystack, haystack.length = n ∧ found haystack) ↔
      (∃ haystack, haystack.length = n ∧ p.Matches haystack) ∧ room n := by
    intro n
    constructor
    · rintro ⟨haystack, rfl, hmatch⟩
      obtain ⟨hmatches, hroom⟩ := (hfound haystack).mp hmatch
      exact ⟨⟨haystack, rfl, hmatches⟩, hroom⟩
    · rintro ⟨⟨haystack, rfl, hmatches⟩, hroom⟩
      exact ⟨haystack, rfl, (hfound haystack).mpr ⟨hmatches, hroom⟩⟩
  refine ⟨hfound, fun haystack => (hfound' haystack).trans (hfound haystack).symm, ?_, ?_, ?_, ?_⟩
  · intro hrepetition n
    rw [hlengths, exists_matches_length_iff_eq 0 hrepetition]
  · intro hrepetition n
    rw [hlengths, exists_matches_length_iff_le 0 hrepetition]
  · intro hroom
    rw [existsUnique_congr hfound]
    exact existsUnique_in_room_iff_isLiteral hroom
  · intro haystack hroom cache cache'
    have hcells : roomMax < ((Haystack.ofList haystack).length + 1) * (p.length + 1) := by
      rw [Haystack.length_ofList]
      exact Nat.lt_of_not_le hroom
    have hpanic : roomPanic? (Haystack.ofList haystack).length p.length
        builder.settings.tableSizeLimit = some (.text "capacity overflow") := by
      rw [hlimit]
      exact roomPanic?_of_lt nofun hcells
    exact ⟨searchInRoom_of_panic _ hpanic, searchInRoom_of_panic _ hpanic⟩

/-- A pattern with a star that asks for two symbols is found in a haystack of five and in none of one; a
wildcard fixes the length only, and literals fix the haystack. -/
theorem shape_says_lengths_three_shapes :
    let starred : Pattern UInt8 := ⟨[.lit 97, .star, .lit 98, .any], rfl⟩
    let single : Pattern UInt8 := ⟨[.lit 97, .any], rfl⟩
    let literal : Pattern UInt8 := ⟨[.lit 97, .lit 98], rfl⟩
    let builder : SearchBuilder := { settings := { tableSizeLimit? := some none } }
    let found (p : Pattern UInt8) (haystack : List UInt8) := ∀ cache,
      ((Backtracker.ofPattern builder p).searchInRoom cache (.ofList haystack)).map Outcome.verdict =
        .ok (.ok true)
    builder.settings.tableSizeLimit = none ∧ starred.hasRepetition = true ∧
      (∃ haystack, haystack.length = 5 ∧ found starred haystack) ∧
      ¬ (∃ haystack, haystack.length = 1 ∧ found starred haystack) ∧
      single.hasRepetition = false ∧ (∃ haystack, haystack.length = 2 ∧ found single haystack) ∧
      ¬ (∃ haystack, haystack.length = 3 ∧ found single haystack) ∧
      ¬ (∃! haystack, found single haystack) ∧ (∃! haystack, found literal haystack) ∧
      ((TableMatcher.ofPattern builder starred).searchInRoom {} (.ofList [97, 97, 98, 0])).map
        Outcome.verdict = .ok (.ok true) ∧
      starred.Matches [97, 97, 98, 0] := by
  intro starred single literal builder found
  have hlimit : builder.settings.tableSizeLimit = none := rfl
  have hstarred : starred.hasRepetition = true := rfl
  have hsingle : single.hasRepetition = false := rfl
  have hcell : ((TableMatcher.ofPattern builder starred).searchInRoom {} (.ofList [97, 97, 98, 0])).map
      Outcome.verdict = .ok (.ok true) := by decide +kernel
  obtain ⟨-, -, -, hatLeast, -, -⟩ := shape_says_lengths starred builder hlimit
  obtain ⟨-, -, hexactly, -, hsingleUnique, -⟩ := shape_says_lengths single builder hlimit
  obtain ⟨-, -, -, -, hliteralUnique, -⟩ := shape_says_lengths literal builder hlimit
  have hmatches : starred.Matches [97, 97, 98, 0] := by
    have hanswer : starred.answerInRoom none (.ofList [97, 97, 98, 0]) = .ok (.ok true) :=
      (TableMatcher.map_verdict_searchInRoom (.ofPattern builder starred) {} _).symm.trans hcell
    simpa using (answerInRoom_none_eq_true_iff.mp hanswer).1
  refine ⟨hlimit, hstarred, (hatLeast hstarred 5).mpr (by decide), ?_, hsingle,
    (hexactly hsingle 2).mpr (by decide), ?_, ?_, (hliteralUnique (by decide)).mpr rfl, hcell, hmatches⟩
  · exact mt (hatLeast hstarred 1).mp (by decide)
  · exact mt (hexactly hsingle 3).mp (by decide)
  · exact mt (hsingleUnique (by decide)).mp (by decide)

/-- A repeated wildcard asks for no symbol and matches all haystacks, but neither engine finds a match in one
of 2^62 symbols. -/
theorem longest_haystacks_are_not_found :
    let p : Pattern UInt8 := ⟨[.any, .star], rfl⟩
    p.hasRepetition = true ∧ p.minLength ≤ 2 ^ 62 ∧
      ∀ haystack : List UInt8, haystack.length = 2 ^ 62 →
        ((Backtracker.ofPattern {} p).searchInRoom {} (.ofList haystack)).map Outcome.verdict ≠
          .ok (.ok true) ∧
        ((TableMatcher.ofPattern {} p).searchInRoom {} (.ofList haystack)).map Outcome.verdict ≠
          .ok (.ok true) := by
  intro p
  have hroom : ¬ (2 ^ 62 + 1) * (p.length + 1) ≤ roomMax := by decide
  refine ⟨rfl, by decide, fun haystack hlength => ?_⟩
  have hanswer : p.answerInRoom none (.ofList haystack) ≠ .ok (.ok true) := by
    rw [Ne, answerInRoom_none_eq_true_iff, Haystack.length_ofList, hlength]
    exact fun hfound => hroom hfound.2
  rw [Backtracker.map_verdict_searchInRoom, TableMatcher.map_verdict_searchInRoom]
  exact ⟨hanswer, hanswer⟩

end StarMatch.Pattern
