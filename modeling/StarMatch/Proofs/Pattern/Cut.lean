import StarMatch.Pattern.Language

/-!
# Cuts from the front and from the back

A cut gives every atom a piece, all at once. An engine finds it symbol by symbol, from the front or
from the back, so the first and the last atom of a cut are each described by the one symbol that
they take next to the rest: an atom that is not repeated takes it and is used up, a repeated atom
takes it and stays, or takes nothing and is passed over.
-/

namespace StarMatch

universe u

variable {σ : Type u} [BEq σ]

namespace Atom

theorem takes_single_iff {offset : Nat} {token : Token σ} {piece : List σ} :
    (⟨offset, token, false⟩ : Atom σ).Takes piece ↔
      ∃ s, piece = [s] ∧ token.accepts s = true := by
  constructor
  · rintro ⟨hlength, haccepts⟩
    obtain ⟨s, rfl⟩ := List.length_eq_one_iff.mp (hlength rfl)
    exact ⟨s, rfl, haccepts s (by simp)⟩
  · rintro ⟨s, rfl, hs⟩
    exact ⟨fun _ => rfl, by simpa using hs⟩

theorem takes_repeated_iff {offset : Nat} {token : Token σ} {piece : List σ} :
    (⟨offset, token, true⟩ : Atom σ).Takes piece ↔ ∀ s ∈ piece, token.accepts s = true := by
  simp [Takes]

end Atom

theorem cut_single_cons_iff {offset : Nat} {token : Token σ} {atoms : List (Atom σ)}
    {symbols : List σ} :
    Cut (⟨offset, token, false⟩ :: atoms) symbols ↔
      ∃ s rest, symbols = s :: rest ∧ token.accepts s = true ∧ Cut atoms rest := by
  rw [cut_cons_iff]
  constructor
  · rintro ⟨piece, rest, rfl, hpiece, hrest⟩
    obtain ⟨s, rfl, hs⟩ := Atom.takes_single_iff.mp hpiece
    exact ⟨s, rest, rfl, hs, hrest⟩
  · rintro ⟨s, rest, rfl, hs, hrest⟩
    exact ⟨[s], rest, rfl, Atom.takes_single_iff.mpr ⟨s, rfl, hs⟩, hrest⟩

/-- A repeated first atom takes nothing, or it takes the first symbol and stays. -/
theorem cut_repeated_cons_iff {offset : Nat} {token : Token σ} {atoms : List (Atom σ)}
    {symbols : List σ} :
    Cut (⟨offset, token, true⟩ :: atoms) symbols ↔
      Cut atoms symbols ∨ ∃ s rest, symbols = s :: rest ∧ token.accepts s = true ∧
        Cut (⟨offset, token, true⟩ :: atoms) rest := by
  constructor
  · intro h
    obtain ⟨piece, rest, rfl, hpiece, hrest⟩ := cut_cons_iff.mp h
    rw [Atom.takes_repeated_iff] at hpiece
    cases piece with
    | nil => exact .inl hrest
    -- What is left of the piece is again a piece of the same atom.
    | cons s piece =>
      have hpiece' : (⟨offset, token, true⟩ : Atom σ).Takes piece :=
        Atom.takes_repeated_iff.mpr fun x hx => hpiece x (List.mem_cons_of_mem s hx)
      exact .inr ⟨s, piece ++ rest, rfl, hpiece s List.mem_cons_self, .cons hpiece' hrest⟩
  · rintro (h | ⟨s, rest, rfl, hs, hrest⟩)
    · exact cut_cons_iff.mpr ⟨[], symbols, rfl, Atom.takes_repeated_iff.mpr (by simp), h⟩
    · obtain ⟨piece, rest', rfl, hpiece, hrest'⟩ := cut_cons_iff.mp hrest
      rw [Atom.takes_repeated_iff] at hpiece
      refine cut_cons_iff.mpr ⟨s :: piece, rest', rfl, Atom.takes_repeated_iff.mpr ?_, hrest'⟩
      intro x hx
      rcases List.mem_cons.mp hx with rfl | hx
      · exact hs
      · exact hpiece x hx

/-- The atoms before a place take what is before some place of the symbols. -/
theorem cut_append_iff {front back : List (Atom σ)} {symbols : List σ} :
    Cut (front ++ back) symbols ↔
      ∃ left right, symbols = left ++ right ∧ Cut front left ∧ Cut back right := by
  induction front generalizing symbols with
  | nil =>
    constructor
    · intro h
      exact ⟨[], symbols, rfl, .nil, h⟩
    · rintro ⟨left, right, rfl, hleft, hright⟩
      rw [cut_nil_iff.mp hleft]
      exact hright
  | cons a front ih =>
    rw [List.cons_append, cut_cons_iff]
    constructor
    · rintro ⟨piece, rest, rfl, hpiece, hrest⟩
      obtain ⟨left, right, rfl, hleft, hright⟩ := ih.mp hrest
      exact ⟨piece ++ left, right, by simp, .cons hpiece hleft, hright⟩
    · rintro ⟨left, right, rfl, hleft, hright⟩
      obtain ⟨piece, rest, rfl, hpiece, hrest⟩ := cut_cons_iff.mp hleft
      exact ⟨piece, rest ++ right, by simp, hpiece, ih.mpr ⟨rest, right, rfl, hrest, hright⟩⟩

theorem cut_singleton_iff {a : Atom σ} {symbols : List σ} : Cut [a] symbols ↔ a.Takes symbols := by
  rw [cut_cons_iff]
  constructor
  · rintro ⟨piece, rest, rfl, hpiece, hrest⟩
    rw [cut_nil_iff.mp hrest, List.append_nil]
    exact hpiece
  · intro h
    exact ⟨symbols, [], by simp, h, .nil⟩

theorem cut_concat_single_iff {offset : Nat} {token : Token σ} {atoms : List (Atom σ)}
    {symbols : List σ} :
    Cut (atoms ++ [⟨offset, token, false⟩]) symbols ↔
      ∃ front s, symbols = front ++ [s] ∧ token.accepts s = true ∧ Cut atoms front := by
  simp only [cut_append_iff, cut_singleton_iff, Atom.takes_single_iff]
  constructor
  · rintro ⟨front, last, rfl, hfront, s, rfl, hs⟩
    exact ⟨front, s, rfl, hs, hfront⟩
  · rintro ⟨front, s, rfl, hs, hfront⟩
    exact ⟨front, [s], rfl, hfront, s, rfl, hs⟩

/-- A repeated last atom takes nothing, or it takes the last symbol and stays. -/
theorem cut_concat_repeated_iff {offset : Nat} {token : Token σ} {atoms : List (Atom σ)}
    {symbols : List σ} :
    Cut (atoms ++ [⟨offset, token, true⟩]) symbols ↔
      Cut atoms symbols ∨ ∃ front s, symbols = front ++ [s] ∧ token.accepts s = true ∧
        Cut (atoms ++ [⟨offset, token, true⟩]) front := by
  simp only [cut_append_iff, cut_singleton_iff, Atom.takes_repeated_iff]
  constructor
  · rintro ⟨front, piece, rfl, hfront, hpiece⟩
    rcases List.eq_nil_or_concat piece with rfl | ⟨piece, s, rfl⟩
    · exact .inl (by simpa using hfront)
    · have hs : token.accepts s = true := hpiece s (by simp)
      have hpiece' : ∀ x ∈ piece, token.accepts x = true := fun x hx => hpiece x (by simp [hx])
      exact .inr ⟨front ++ piece, s, by simp, hs, front, piece, rfl, hfront, hpiece'⟩
  · rintro (h | ⟨_, s, rfl, hs, front, piece, rfl, hfront, hpiece⟩)
    · exact ⟨symbols, [], by simp, h, by simp⟩
    · refine ⟨front, piece ++ [s], by simp, hfront, ?_⟩
      intro x hx
      rcases List.mem_append.mp hx with hx | hx
      · exact hpiece x hx
      · rw [List.mem_singleton.mp hx]
        exact hs

end StarMatch
