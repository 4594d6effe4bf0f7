import StarMatch.Proofs.Pattern.Atoms
import StarMatch.Proofs.Pattern.Cut

/-!
# Cuts along tokens

Where in a pattern its tokens stand has no part in what they take. A sequence of tokens is therefore
taken apart at its front, one atom at a time, without the offsets of its atoms.
-/

namespace StarMatch

universe u

/-- A sequence of tokens is empty, or a token that no star follows comes first, or one that a star
repeats. -/
@[elab_as_elim]
theorem tokens_induction {σ : Type u} {motive : List (Token σ) → Prop} (nil : motive [])
    (single : ∀ token tokens, tokens.head?.any Token.isStar = false → motive tokens →
      motive (token :: tokens))
    (repeated : ∀ token tokens, motive tokens → motive (token :: .star :: tokens))
    (tokens : List (Token σ)) : motive tokens := by
  fun_induction Atom.ofTokensFrom 0 tokens with
  | case1 => exact nil
  | case2 _ t => exact single t [] rfl nil
  | case3 _ t ts ih => exact repeated t ts ih
  | case4 _ t u ts hu ih =>
    have hhead : (u :: ts).head?.any Token.isStar = false := by
      cases u <;> simp_all
    exact single t (u :: ts) hhead ih

section CutAlong

variable {σ : Type u} [BEq σ] {token : Token σ} {tokens : List (Token σ)} {symbols : List σ}

/-- The symbols can be cut along the tokens, wherever in a pattern these stand. -/
def CutAlong (tokens : List (Token σ)) (symbols : List σ) : Prop :=
  Cut (Atom.ofTokensFrom 0 tokens) symbols

theorem cut_of_cut_offset {offset offset' : Nat}
    (h : Cut (Atom.ofTokensFrom offset tokens) symbols) :
    Cut (Atom.ofTokensFrom offset' tokens) symbols := by
  induction tokens using tokens_induction generalizing offset offset' symbols with
  | nil => exact h
  | single token tokens hhead ih =>
    rw [Atom.ofTokensFrom_cons_of_not_star _ token hhead] at h ⊢
    obtain ⟨piece, rest, rfl, hpiece, hrest⟩ := cut_cons_iff.mp h
    exact .cons hpiece (ih hrest)
  | repeated token tokens ih =>
    rw [Atom.ofTokensFrom_cons_star] at h ⊢
    obtain ⟨piece, rest, rfl, hpiece, hrest⟩ := cut_cons_iff.mp h
    exact .cons hpiece (ih hrest)

theorem cutAlong_iff (offset : Nat) :
    CutAlong tokens symbols ↔ Cut (Atom.ofTokensFrom offset tokens) symbols :=
  ⟨cut_of_cut_offset, cut_of_cut_offset⟩

@[simp] theorem cutAlong_nil_iff : CutAlong ([] : List (Token σ)) symbols ↔ symbols = [] :=
  cut_nil_iff

theorem cutAlong_single_iff (h : tokens.head?.any Token.isStar = false) :
    CutAlong (token :: tokens) symbols ↔
      ∃ s rest, symbols = s :: rest ∧ token.accepts s = true ∧ CutAlong tokens rest := by
  rw [CutAlong, Atom.ofTokensFrom_cons_of_not_star 0 token h, cut_single_cons_iff]
  simp only [← cutAlong_iff]

theorem cutAlong_repeated_iff :
    CutAlong (token :: .star :: tokens) symbols ↔
      ∃ piece rest, symbols = piece ++ rest ∧ (∀ s ∈ piece, token.accepts s = true) ∧
        CutAlong tokens rest := by
  rw [CutAlong, Atom.ofTokensFrom_cons_star, cut_cons_iff]
  simp only [← cutAlong_iff, Atom.takes_repeated_iff]

theorem cutAlong_repeated_cons_iff :
    CutAlong (token :: .star :: tokens) symbols ↔
      CutAlong tokens symbols ∨ ∃ s rest, symbols = s :: rest ∧ token.accepts s = true ∧
        CutAlong (token :: .star :: tokens) rest := by
  simp only [CutAlong, Atom.ofTokensFrom_cons_star]
  rw [cut_repeated_cons_iff, ← cutAlong_iff, CutAlong]

theorem cutAlong_lit_iff [LawfulBEq σ] {symbol : σ} (h : tokens.head?.any Token.isStar = false) :
    CutAlong (.lit symbol :: tokens) symbols ↔
      ∃ rest, symbols = symbol :: rest ∧ CutAlong tokens rest := by
  rw [cutAlong_single_iff h]
  constructor
  · rintro ⟨s, rest, rfl, hs, hrest⟩
    exact ⟨rest, by rw [beq_iff_eq.mp hs], hrest⟩
  · rintro ⟨rest, rfl, hrest⟩
    exact ⟨symbol, rest, rfl, BEq.rfl, hrest⟩

theorem cutAlong_map_lit_append_iff [LawfulBEq σ] {front : List σ}
    (h : tokens.head?.any Token.isStar = false) :
    CutAlong (front.map .lit ++ tokens) symbols ↔
      ∃ rest, symbols = front ++ rest ∧ CutAlong tokens rest := by
  induction front generalizing symbols with
  | nil => simp
  | cons symbol front ih =>
    have hhead : (front.map Token.lit ++ tokens).head?.any Token.isStar = false := by
      cases front with
      | nil => exact h
      | cons next front => rfl
    rw [List.map_cons, List.cons_append, cutAlong_lit_iff hhead]
    constructor
    · rintro ⟨rest, rfl, hrest⟩
      obtain ⟨rest', rfl, hrest'⟩ := ih.mp hrest
      exact ⟨rest', rfl, hrest'⟩
    · rintro ⟨rest, rfl, hrest⟩
      exact ⟨front ++ rest, rfl, ih.mpr ⟨rest, rfl, hrest⟩⟩

theorem cutAlong_lit_star_cons_iff [LawfulBEq σ] {symbol : σ} :
    CutAlong (.lit symbol :: .star :: tokens) symbols ↔
      CutAlong tokens symbols ∨
        ∃ rest, symbols = symbol :: rest ∧ CutAlong (.lit symbol :: .star :: tokens) rest := by
  rw [cutAlong_repeated_cons_iff]
  refine or_congr_right ?_
  constructor
  · rintro ⟨s, rest, rfl, hs, hrest⟩
    exact ⟨rest, by rw [beq_iff_eq.mp hs], hrest⟩
  · rintro ⟨rest, rfl, hrest⟩
    exact ⟨symbol, rest, rfl, BEq.rfl, hrest⟩

theorem cutAlong_star_star_iff :
    CutAlong (.star :: .star :: tokens) symbols ↔ CutAlong tokens symbols := by
  rw [cutAlong_repeated_cons_iff]
  constructor
  · rintro (h | ⟨s, rest, -, hs, -⟩)
    · exact h
    · cases hs
  · exact .inl

theorem not_cutAlong_star (h : tokens.head?.any Token.isStar = false) :
    ¬ CutAlong (.star :: tokens) symbols := by
  rw [cutAlong_single_iff h]
  rintro ⟨s, rest, -, hs, -⟩
  cases hs

end CutAlong

end StarMatch
