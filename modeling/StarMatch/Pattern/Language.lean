import StarMatch.Pattern.Basic

/-!
# What a pattern stands for

A pattern matches a list of symbols that can be cut into consecutive pieces, one for each atom in
order. The piece of a repeated atom has any length, that of another atom is one symbol, and every
symbol of a piece is accepted by the atom's token.
-/

namespace StarMatch

universe u

variable {σ : Type u} [BEq σ]

/-- Whether the list of symbols can be the piece of the atom. -/
def Atom.Takes (a : Atom σ) (piece : List σ) : Prop :=
  (a.repeated = false → piece.length = 1) ∧ ∀ s ∈ piece, a.token.accepts s = true

/-- The list of symbols can be cut into one piece for each atom, in order. -/
inductive Cut : List (Atom σ) → List σ → Prop where
  | nil : Cut [] []
  | cons {a : Atom σ} {atoms : List (Atom σ)} {piece rest : List σ} :
    a.Takes piece → Cut atoms rest → Cut (a :: atoms) (piece ++ rest)

/-- The pattern matches the list of symbols in full. -/
def Pattern.Matches (p : Pattern σ) (symbols : List σ) : Prop :=
  Cut p.atoms symbols

/-- No atoms leave no pieces. -/
@[simp] theorem cut_nil_iff {symbols : List σ} : Cut ([] : List (Atom σ)) symbols ↔ symbols = [] := by
  constructor
  · intro h
    cases h with
    | nil => rfl
  · rintro rfl
    exact .nil

/-- The first atom takes a piece, and the other atoms take the rest. -/
theorem cut_cons_iff {a : Atom σ} {atoms : List (Atom σ)} {symbols : List σ} :
    Cut (a :: atoms) symbols ↔
      ∃ piece rest, symbols = piece ++ rest ∧ a.Takes piece ∧ Cut atoms rest := by
  constructor
  · intro h
    cases h with
    | cons hpiece hrest => exact ⟨_, _, rfl, hpiece, hrest⟩
  · rintro ⟨piece, rest, rfl, hpiece, hrest⟩
    exact .cons hpiece hrest

end StarMatch
