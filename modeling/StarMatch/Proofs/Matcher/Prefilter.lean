import StarMatch.Matcher.Prefilter
import StarMatch.Proofs.Pattern.Length

/-!
# A prefilter rejects no match

What a prefilter asks of a haystack is necessary for a match: the literals of the atoms that are not
repeated are a sublist of the haystack, and looking for them one behind the other finds a sublist
whenever there is one. Only a pattern that the empty haystack matches as well as others has nothing to
ask for.
-/

namespace StarMatch.Prefilter

theorem behind?_nil (needle : UInt8) : behind? needle [] = none := rfl

theorem behind?_cons (needle b : UInt8) (rest : List UInt8) :
    behind? needle (b :: rest) = if b = needle then some rest else behind? needle rest := by
  unfold behind?
  rw [List.idxOf?_cons]
  by_cases h : b = needle
  · simp [h]
  · simp [h, Function.comp_def]

theorem appearInOrder_cons_cons (needle b : UInt8) (needles rest : List UInt8) :
    appearInOrder (needle :: needles) (b :: rest) =
      if b = needle then appearInOrder needles rest else appearInOrder (needle :: needles) rest := by
  by_cases h : b = needle <;> simp [appearInOrder, behind?_cons, h]

/-- Searching for each byte behind the one before finds every sublist. -/
theorem appearInOrder_iff_sublist {needles haystack : List UInt8} :
    appearInOrder needles haystack = true ↔ needles.Sublist haystack := by
  induction haystack generalizing needles with
  | nil =>
    cases needles with
    | nil => simp [appearInOrder]
    | cons needle needles => simp [appearInOrder, behind?_nil]
  | cons b haystack ih =>
    cases needles with
    | nil => simp [appearInOrder]
    | cons needle needles =>
      rw [appearInOrder_cons_cons]
      by_cases h : b = needle
      · rw [if_pos h, h, List.cons_sublist_cons]
        exact ih
      · rw [if_neg h, ih, List.sublist_cons_iff]
        simp [Ne.symm h]

/-- The literals of the atoms that are not repeated appear in order in whatever the atoms take. -/
theorem sublist_of_cut {atoms : List (Atom UInt8)} {symbols : List UInt8} (h : Cut atoms symbols) :
    ((atoms.filter fun a => !a.repeated).filterMap fun a => a.token.literal?).Sublist symbols := by
  induction h with
  | nil => exact List.Sublist.slnil
  | @cons a atoms piece rest hpiece _ ih =>
    obtain ⟨offset, token, repeated⟩ := a
    cases repeated with
    | true =>
      rw [List.filter_cons_of_neg (by simp)]
      exact List.sublist_append_of_sublist_right ih
    | false =>
      obtain ⟨s, rfl, hs⟩ := Atom.takes_single_iff.mp hpiece
      rw [List.filter_cons_of_pos (by simp), List.filterMap_cons, List.singleton_append]
      cases token with
      | lit symbol =>
        obtain rfl : symbol = s := by simpa [Token.accepts] using hs
        exact ih.cons_cons symbol
      | any => exact ih.cons s
      | star => cases hs

theorem requiredLiterals_of_minLength_eq_zero {p : Pattern UInt8} (h : p.minLength = 0) :
    requiredLiterals p = [] := by
  rw [requiredLiterals, List.eq_nil_of_length_eq_zero h, List.filterMap_nil]

/-- There is nothing to ask of a haystack where a pattern has a repetition and no other atoms. -/
theorem ofPattern?_eq (p : Pattern UInt8) :
    ofPattern? p =
      if p.minLength = 0 ∧ p.hasRepetition = true then none
      else some ⟨requiredLiterals p, p.minLength, if p.hasRepetition then none else some p.length⟩ := by
  by_cases hlength : p.minLength = 0
  · have hneedles := requiredLiterals_of_minLength_eq_zero hlength
    cases hrepetition : p.hasRepetition <;> simp [ofPattern?, hlength, hneedles, hrepetition]
  · simp [ofPattern?, hlength]

theorem isPossible_iff {f : Prefilter} {haystack : List UInt8} :
    f.isPossible haystack = true ↔ f.minLength ≤ haystack.length ∧
      (∀ length ∈ f.exactLength?, length = haystack.length) ∧ f.needles.Sublist haystack := by
  simp [isPossible, appearInOrder_iff_sublist, and_assoc, Option.all_eq_true]

/-- The three conditions of a pattern's prefilter. -/
theorem eq_of_ofPattern? {p : Pattern UInt8} {f : Prefilter} (h : ofPattern? p = some f) :
    f = ⟨requiredLiterals p, p.minLength, if p.hasRepetition then none else some p.length⟩ := by
  rw [ofPattern?_eq] at h
  split at h
  · cases h
  · exact (Option.some.inj h).symm

/-- A pattern's prefilter lets every haystack pass that the pattern matches. -/
theorem isPossible_of_matches {p : Pattern UInt8} {haystack : List UInt8}
    (h : p.Matches haystack) : (ofPattern? p).all (·.isPossible haystack) = true := by
  rw [Option.all_eq_true]
  intro f hf
  rw [isPossible_iff, eq_of_ofPattern? hf]
  refine ⟨Pattern.minLength_le_length h, ?_, sublist_of_cut h⟩
  intro length hlength
  cases hrepetition : p.hasRepetition with
  | true => simp [hrepetition] at hlength
  | false =>
    obtain rfl : p.length = length := by simpa [hrepetition] using hlength
    exact ((Pattern.matches_iff_forall₂ hrepetition).mp h).length_eq

/-- A pattern has no prefilter exactly if it is not empty and matches the empty haystack. Otherwise a
haystack is possible exactly if it has a byte for each atom that is not repeated, has one for each
token where there is no repetition, and has the literals of the atoms that are not repeated among its
bytes in their order; and every haystack that matches is possible. -/
theorem possible_iff_literals_in_order (p : Pattern UInt8) :
    (ofPattern? p = none ↔ p.tokens ≠ [] ∧ p.Matches []) ∧
    ∀ f, ofPattern? p = some f → ∀ haystack : List UInt8,
      (f.isPossible haystack = true ↔
        (p.atoms.filter fun a => !a.repeated).length ≤ haystack.length ∧
        (.star ∈ p.tokens ∨ haystack.length = p.tokens.length) ∧
        ((p.atoms.filter fun a => !a.repeated).filterMap fun a => a.token.literal?).Sublist
          haystack) ∧
      (p.Matches haystack → f.isPossible haystack = true) := by
  refine ⟨?_, ?_⟩
  · have hnone : ofPattern? p = none ↔ p.minLength = 0 ∧ .star ∈ p.tokens := by
      rw [ofPattern?_eq, ← Pattern.hasRepetition_iff]
      simp
    rw [hnone, Pattern.matches_empty_iff]
    constructor
    · intro h
      exact ⟨List.ne_nil_of_mem h.2, h.1⟩
    · intro h
      exact ⟨h.2, Pattern.star_mem_of_minLength_eq_zero h.2 h.1⟩
  · intro f hf haystack
    refine ⟨?_, ?_⟩
    · have hexact : (∀ length ∈ f.exactLength?, length = haystack.length) ↔
          .star ∈ p.tokens ∨ haystack.length = p.tokens.length := by
        rw [eq_of_ofPattern? hf, ← Pattern.hasRepetition_iff]
        cases hrepetition : p.hasRepetition with
        | true => simp
        | false => simp [Pattern.length, eq_comm]
      rw [isPossible_iff, hexact, eq_of_ofPattern? hf]
      rfl
    · intro hmatches
      have hpossible := isPossible_of_matches hmatches
      rwa [hf, Option.all_some] at hpossible

/-- Two haystacks with the same bytes, only one of which has the literals in their order. -/
theorem possible_iff_literals_in_order_two_literals :
    let p : Pattern UInt8 := ⟨[.lit 97, .star, .lit 98, .any, .lit 99, .star, .lit 100], rfl⟩
    let f : Prefilter := ⟨[98, 100], 3, none⟩
    ofPattern? p = some f ∧ f.isPossible [98, 0, 100] = true ∧ f.isPossible [100, 0, 98] = false := by
  intro p f
  have hf : ofPattern? p = some f := rfl
  have hpossible := (possible_iff_literals_in_order p).2 f hf
  refine ⟨hf, ?_, ?_⟩
  · exact (hpossible [98, 0, 100]).1.mpr ⟨by decide, .inl (by simp [p]), by decide⟩
  · have hnot : ¬ f.isPossible [100, 0, 98] = true := by
      intro h
      obtain ⟨-, -, hliterals⟩ := (hpossible [100, 0, 98]).1.mp h
      exact absurd hliterals (by decide)
    exact Bool.eq_false_iff.mpr hnot

end StarMatch.Prefilter
