import Mathlib.Data.List.Forall2
import StarMatch.Proofs.Pattern.Atoms
import StarMatch.Proofs.Pattern.Cut

/-!
# How long a match is

Every atom that is not repeated takes one symbol, so a haystack that matches has a symbol for each of
them, and the empty haystack matches where there are none. Where no atom is repeated, each token takes
the symbol at its own offset and nothing is left.
-/

namespace StarMatch

universe u

variable {σ : Type u} [BEq σ] {symbols : List σ}

theorem length_filter_le_of_cut {atoms : List (Atom σ)} (h : Cut atoms symbols) :
    (atoms.filter fun a => !a.repeated).length ≤ symbols.length := by
  induction h with
  | nil => exact Nat.le_refl _
  | @cons a atoms piece rest hpiece _ ih =>
    rw [List.length_append]
    cases hrepeated : a.repeated with
    | false =>
      rw [List.filter_cons_of_pos (by simp [hrepeated]), List.length_cons, hpiece.1 hrepeated]
      omega
    | true =>
      rw [List.filter_cons_of_neg (by simp [hrepeated])]
      omega

/-- Atoms take nothing at all if all of them are repeated. -/
theorem cut_empty_iff {atoms : List (Atom σ)} :
    Cut atoms [] ↔ ∀ a ∈ atoms, a.repeated = true := by
  induction atoms with
  | nil => simp
  | cons a atoms ih =>
    obtain ⟨offset, token, repeated⟩ := a
    cases repeated with
    | false => simp [cut_single_cons_iff]
    | true =>
      rw [cut_repeated_cons_iff, ih]
      simp

omit [BEq σ] in
theorem Pattern.minLength_eq_zero_iff {p : Pattern σ} :
    p.minLength = 0 ↔ ∀ a ∈ p.atoms, a.repeated = true := by
  simp [minLength, List.filter_eq_nil_iff]

/-- A pattern matches the empty haystack if it asks for no symbol. -/
theorem Pattern.matches_empty_iff {p : Pattern σ} : p.Matches [] ↔ p.minLength = 0 := by
  rw [Matches, cut_empty_iff, minLength_eq_zero_iff]

omit [BEq σ] in
theorem Pattern.hasRepetition_iff {p : Pattern σ} : p.hasRepetition = true ↔ .star ∈ p.tokens := by
  rw [hasRepetition, List.any_eq_true]
  constructor
  · intro h
    obtain ⟨token, htoken, hstar⟩ := h
    exact Token.isStar_iff.mp hstar ▸ htoken
  · intro h
    exact ⟨.star, h, rfl⟩

omit [BEq σ] in
/-- The star of a repeated atom is one of the tokens. -/
theorem Pattern.star_mem_of_repeated {p : Pattern σ} {a : Atom σ} (ha : a ∈ p.atoms)
    (hrepeated : a.repeated = true) : .star ∈ p.tokens := by
  rw [← p.atoms_toTokens, List.mem_flatMap]
  exact ⟨a, ha, by simp [Atom.toTokens, hrepeated]⟩

omit [BEq σ] in
/-- A pattern without symbols to ask for has a repetition, unless it is empty. -/
theorem Pattern.star_mem_of_minLength_eq_zero {p : Pattern σ} (h : p.minLength = 0)
    (htokens : p.tokens ≠ []) : .star ∈ p.tokens := by
  have hatoms : p.atoms ≠ [] := by
    intro hnil
    have hlaid := p.atoms_toTokens
    rw [hnil] at hlaid
    exact htokens hlaid.symm
  obtain ⟨a, ha⟩ := List.exists_mem_of_ne_nil _ hatoms
  exact star_mem_of_repeated ha (minLength_eq_zero_iff.mp h a ha)

omit [BEq σ] in
theorem length_filter_le_length_flatMap (atoms : List (Atom σ)) :
    (atoms.filter fun a => !a.repeated).length ≤ (atoms.flatMap Atom.toTokens).length := by
  induction atoms with
  | nil => exact Nat.le_refl _
  | cons a atoms ih =>
    rw [List.flatMap_cons, List.length_append]
    cases hrepeated : a.repeated with
    | true =>
      rw [List.filter_cons_of_neg (by simp [hrepeated])]
      exact Nat.le_trans ih (Nat.le_add_left _ _)
    | false =>
      rw [List.filter_cons_of_pos (by simp [hrepeated]), Atom.toTokens, hrepeated,
        if_neg Bool.false_ne_true, List.length_cons, List.length_singleton, Nat.add_comm 1]
      exact Nat.succ_le_succ ih

omit [BEq σ] in
/-- A repeated atom has tokens and asks for no symbol. -/
theorem Pattern.minLength_lt_length {p : Pattern σ} (h : ∃ a ∈ p.atoms, a.repeated = true) :
    p.minLength < p.length := by
  obtain ⟨a, ha, hrepeated⟩ := h
  obtain ⟨front, back, hatoms⟩ := List.append_of_mem ha
  have hfront := length_filter_le_length_flatMap front
  have hback := length_filter_le_length_flatMap back
  have htwo : a.toTokens.length = 2 := by rw [Atom.toTokens, if_pos hrepeated]; rfl
  rw [length, ← p.atoms_toTokens, minLength, hatoms, List.filter_append,
    List.filter_cons_of_neg (by simp [hrepeated]), List.length_append, List.flatMap_append,
    List.flatMap_cons, List.length_append, List.length_append, htwo]
  omega

/-- No haystack that matches is shorter than the pattern asks for. -/
theorem Pattern.minLength_le_length {p : Pattern σ} (h : p.Matches symbols) :
    p.minLength ≤ symbols.length :=
  length_filter_le_of_cut h

/-- Tokens without a star take one symbol each. -/
theorem cut_iff_forall₂ {tokens : List (Token σ)} (hstar : tokens.any Token.isStar = false)
    (offset : Nat) :
    Cut (Atom.ofTokensFrom offset tokens) symbols ↔
      List.Forall₂ (fun token s => token.accepts s = true) tokens symbols := by
  induction tokens generalizing offset symbols with
  | nil => rw [Atom.ofTokensFrom, cut_nil_iff, List.forall₂_nil_left_iff]
  | cons token rest ih =>
    rw [List.any_cons, Bool.or_eq_false_iff] at hstar
    have hhead : rest.head?.any Token.isStar = false := by
      cases rest with
      | nil => rfl
      | cons next rest => simp_all
    rw [Atom.ofTokensFrom_cons_of_not_star offset token hhead, cut_single_cons_iff,
      List.forall₂_cons_left_iff]
    constructor
    · rintro ⟨s, rest', rfl, hs, hrest⟩
      exact ⟨s, rest', hs, (ih hstar.2 _).mp hrest, rfl⟩
    · rintro ⟨s, rest', hs, hrest, rfl⟩
      exact ⟨s, rest', rfl, hs, (ih hstar.2 _).mpr hrest⟩

/-- A pattern without repetition matches when each token accepts the symbol at its own offset. -/
theorem Pattern.matches_iff_forall₂ {p : Pattern σ} (h : p.hasRepetition = false) :
    p.Matches symbols ↔ List.Forall₂ (fun token s => token.accepts s = true) p.tokens symbols :=
  cut_iff_forall₂ h 0

omit [BEq σ] in
theorem Pattern.hasRepetition_literal (symbols : List σ) :
    (literal symbols).hasRepetition = false := by
  rw [hasRepetition, tokens_literal, List.any_map, List.any_eq_false]
  exact fun _ _ => Bool.false_ne_true

/-- A pattern of literals matches its own symbols, if each of them equals itself. -/
theorem Pattern.matches_literal [ReflBEq σ] (symbols : List σ) : (literal symbols).Matches symbols := by
  rw [matches_iff_forall₂ (hasRepetition_literal symbols), tokens_literal, List.forall₂_map_left_iff,
    List.forall₂_same]
  exact fun _ _ => BEq.rfl

end StarMatch
