import StarMatch.Proofs.Pattern.Blocks
import StarMatch.Proofs.Pattern.Length

/-!
# Haystacks made for a pattern

Every token but the star accepts some symbol, so there is a haystack for every pattern, in which no
repeated atom takes anything. Where an atom is repeated it may take any number of symbols, so there are
longer haystacks of every length.
-/

namespace StarMatch

universe u

variable {σ : Type u} {token : Token σ} {filler : σ}

/-- A symbol for the token: that of a literal, and the filler for a wildcard. -/
def Token.sample (filler : σ) : Token σ → σ
  | .lit symbol => symbol
  | .any | .star => filler

/-- The symbols for those atoms that are not repeated. -/
def sampleOf (filler : σ) (atoms : List (Atom σ)) : List σ :=
  (atoms.filter fun a => !a.repeated).map fun a => a.token.sample filler

theorem accepts_sample [BEq σ] [ReflBEq σ] (h : token.isStar = false) :
    token.accepts (token.sample filler) = true := by
  cases token with
  | lit symbol => exact BEq.rfl
  | any => rfl
  | star => cases h

section Cut

variable [BEq σ] [ReflBEq σ] {atoms : List (Atom σ)}

theorem cut_sampleOf (hstar : ∀ a ∈ atoms, a.token.isStar = false) :
    Cut atoms (sampleOf filler atoms) := by
  induction atoms with
  | nil => exact .nil
  | cons a atoms ih =>
    rw [List.forall_mem_cons] at hstar
    obtain ⟨offset, token, repeated⟩ := a
    cases repeated with
    | false =>
      have hpiece : (⟨offset, token, false⟩ : Atom σ).Takes [token.sample filler] :=
        Atom.takes_single_iff.mpr ⟨_, rfl, accepts_sample hstar.1⟩
      exact .cons hpiece (ih hstar.2)
    | true =>
      have hpiece : (⟨offset, token, true⟩ : Atom σ).Takes [] :=
        Atom.takes_repeated_iff.mpr nofun
      exact .cons hpiece (ih hstar.2)

/-- A repeated atom takes what is missing to a given length. -/
theorem exists_cut_of_length_le (filler : σ) {n : Nat}
    (hstar : ∀ a ∈ atoms, a.token.isStar = false) (hrepeated : ∃ a ∈ atoms, a.repeated = true)
    (hn : (atoms.filter fun a => !a.repeated).length ≤ n) :
    ∃ symbols, symbols.length = n ∧ Cut atoms symbols := by
  obtain ⟨a, ha, hrepeats⟩ := hrepeated
  obtain ⟨front, back, rfl⟩ := List.append_of_mem ha
  simp only [List.forall_mem_append, List.forall_mem_cons] at hstar
  obtain ⟨hfront, hatom, hback⟩ := hstar
  rw [List.filter_append, List.filter_cons_of_neg (by simp [hrepeats]), List.length_append] at hn
  let left := sampleOf filler front
  let right := sampleOf filler back
  let piece := List.replicate (n - (left.length + right.length)) (a.token.sample filler)
  have hpiece : a.Takes piece := by
    refine ⟨fun hsingle => absurd (hrepeats.symm.trans hsingle) nofun, ?_⟩
    intro s hs
    rw [List.eq_of_mem_replicate hs]
    exact accepts_sample hatom
  refine ⟨left ++ (piece ++ right), ?_, ?_⟩
  · have hsum : left.length + right.length ≤ n := by simpa [left, right, sampleOf] using hn
    simp only [piece, List.length_append, List.length_replicate]
    omega
  · exact cut_append_iff.mpr
      ⟨left, piece ++ right, rfl, cut_sampleOf hfront, .cons hpiece (cut_sampleOf hback)⟩

end Cut

namespace Pattern

variable {p : Pattern σ}

theorem exists_repeated_of_hasRepetition (h : p.hasRepetition = true) :
    ∃ a ∈ p.atoms, a.repeated = true := by
  rw [hasRepetition_iff, ← p.atoms_toTokens, List.mem_flatMap] at h
  obtain ⟨a, ha, hmem⟩ := h
  cases hrepeated : a.repeated with
  | true => exact ⟨a, ha, hrepeated⟩
  | false =>
    have hstar := not_star_of_mem_atoms ha
    have htoken : Token.star = a.token := by simpa [Atom.toTokens, hrepeated] using hmem
    rw [← htoken] at hstar
    cases hstar

variable [BEq σ] [ReflBEq σ] {n : Nat}

/-- Without repetition, a symbol for each token makes a haystack that matches. -/
theorem matches_map_sample (h : p.hasRepetition = false) (filler : σ) :
    p.Matches (p.tokens.map (Token.sample filler)) := by
  rw [matches_iff_forall₂ h, List.forall₂_map_right_iff, List.forall₂_same]
  intro token htoken
  exact accepts_sample (Bool.eq_false_iff.mpr (List.any_eq_false.mp h token htoken))

theorem exists_matches_length_iff_eq (filler : σ) (h : p.hasRepetition = false) :
    (∃ symbols, symbols.length = n ∧ p.Matches symbols) ↔ n = p.length := by
  constructor
  · rintro ⟨symbols, rfl, hmatches⟩
    exact ((matches_iff_forall₂ h).mp hmatches).length_eq.symm
  · rintro rfl
    exact ⟨_, List.length_map _, matches_map_sample h filler⟩

theorem exists_matches_length_iff_le (filler : σ) (h : p.hasRepetition = true) :
    (∃ symbols, symbols.length = n ∧ p.Matches symbols) ↔ p.minLength ≤ n := by
  constructor
  · rintro ⟨symbols, rfl, hmatches⟩
    exact minLength_le_length hmatches
  · intro hn
    exact exists_cut_of_length_le filler (fun _ => not_star_of_mem_atoms)
      (exists_repeated_of_hasRepetition h) hn

/-- A pattern that matches one haystack only, of those that are no longer than itself, has literals only,
as long as there are two symbols to put in for a wildcard. -/
theorem isLiteral_of_unique {filler filler' : σ} (hne : filler ≠ filler')
    (hunique : ∀ symbols symbols', symbols.length ≤ p.length → symbols'.length ≤ p.length →
      p.Matches symbols → p.Matches symbols' → symbols = symbols') :
    p.isLiteral = true := by
  cases hrepetition : p.hasRepetition with
  | true =>
    have hshort := minLength_lt_length (exists_repeated_of_hasRepetition hrepetition)
    obtain ⟨symbols, hlength, hmatches⟩ :=
      (exists_matches_length_iff_le filler hrepetition).mpr (Nat.le_refl p.minLength)
    obtain ⟨symbols', hlength', hmatches'⟩ :=
      (exists_matches_length_iff_le filler hrepetition).mpr (Nat.le_succ p.minLength)
    rw [hunique symbols symbols' (by omega) (by omega) hmatches hmatches', hlength'] at hlength
    exact absurd hlength (Nat.succ_ne_self _)
  | false =>
    have hsame := hunique _ _ (Nat.le_of_eq (List.length_map _)) (Nat.le_of_eq (List.length_map _))
      (matches_map_sample hrepetition filler) (matches_map_sample hrepetition filler')
    rw [isLiteral, List.all_eq_true]
    intro token htoken
    have hsample := List.map_inj_left.mp hsame token htoken
    cases token with
    | lit symbol => rfl
    | any => exact absurd hsample hne
    | star => exact absurd hsample hne

end Pattern

end StarMatch
