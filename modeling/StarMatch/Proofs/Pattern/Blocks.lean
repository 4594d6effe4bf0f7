import Mathlib.Order.Bounds.Basic
import StarMatch.Proofs.Pattern.Fault
import StarMatch.Proofs.Pattern.Tokens

/-!
# Patterns are sequences of blocks

A pattern is told from other sequences of tokens by looking at neighbours. What this comes to for the
whole sequence is that it consists of blocks, each a token that is no star with at most one star behind
it. There is one way to see a pattern so, and its atoms are these blocks at their places.
-/

namespace StarMatch

universe u

variable {σ : Type u}

/-- A token that is no star, and whether a star follows it. -/
structure Block (σ : Type u) where
  token : Token σ
  repeated : Bool
  not_star : token.isStar = false

namespace Block

/-- The token, and the star if there is one. -/
def toTokens (b : Block σ) : List (Token σ) :=
  b.token :: if b.repeated then [.star] else []

/-- The blocks one behind the other. -/
def layOut (blocks : List (Block σ)) : List (Token σ) :=
  blocks.flatMap toTokens

/-- The atom that the block is where its token has the given offset. -/
def atomAt (offset : Nat) (b : Block σ) : Atom σ :=
  ⟨offset, b.token, b.repeated⟩

@[simp] theorem layOut_nil : layOut ([] : List (Block σ)) = [] := rfl

@[simp] theorem layOut_cons (b : Block σ) (blocks : List (Block σ)) :
    layOut (b :: blocks) = b.toTokens ++ layOut blocks := rfl

theorem eq_of_atomAt_eq {b b' : Block σ} {offset offset' : Nat}
    (h : b.atomAt offset = b'.atomAt offset') : b = b' := by
  obtain ⟨token, repeated, hstar⟩ := b
  obtain ⟨token', repeated', hstar'⟩ := b'
  obtain ⟨-, rfl, rfl⟩ := Atom.mk.inj h
  rfl

theorem head_layOut (blocks : List (Block σ)) : (layOut blocks).head?.any Token.isStar = false := by
  cases blocks with
  | nil => rfl
  | cons b blocks => exact b.not_star

/-- The first of the blocks is the first atom. -/
theorem ofTokensFrom_layOut_cons (offset : Nat) (b : Block σ) (blocks : List (Block σ)) :
    Atom.ofTokensFrom offset (layOut (b :: blocks)) =
      b.atomAt offset :: Atom.ofTokensFrom (offset + b.toTokens.length) (layOut blocks) := by
  obtain ⟨token, repeated, hstar⟩ := b
  cases repeated with
  | false => exact Atom.ofTokensFrom_cons_of_not_star offset token (head_layOut blocks)
  | true => exact Atom.ofTokensFrom_cons_star offset token (layOut blocks)

/-- Each block is an atom, behind all blocks before it. -/
theorem getElem?_ofTokensFrom_layOut (offset : Nat) (blocks : List (Block σ)) (i : Nat) :
    (Atom.ofTokensFrom offset (layOut blocks))[i]? =
      blocks[i]?.map (atomAt (offset + (layOut (blocks.take i)).length)) := by
  induction blocks generalizing offset i with
  | nil => rfl
  | cons b blocks ih =>
    rw [ofTokensFrom_layOut_cons]
    cases i with
    | zero => rfl
    | succ i =>
      rw [List.getElem?_cons_succ, ih, List.getElem?_cons_succ, List.take_succ_cons, layOut_cons,
        List.length_append, Nat.add_assoc]

theorem layOut_inj {blocks blocks' : List (Block σ)} (h : layOut blocks = layOut blocks') :
    blocks = blocks' := by
  refine List.ext_getElem? fun i => ?_
  have hatoms := getElem?_ofTokensFrom_layOut 0 blocks i
  rw [h, getElem?_ofTokensFrom_layOut 0 blocks' i] at hatoms
  cases hb : blocks[i]? with
  | none =>
    rw [hb, Option.map_none, Option.map_eq_none_iff] at hatoms
    exact hatoms.symm
  | some b =>
    rw [hb, Option.map_some, Option.map_eq_some_iff] at hatoms
    obtain ⟨b', hb', heq⟩ := hatoms
    rw [hb', eq_of_atomAt_eq heq]

/-- Blocks have no star to misplace. -/
theorem misplacedStarFrom?_layOut (bare : Bool) (offset : Nat) (blocks : List (Block σ)) :
    misplacedStarFrom? bare offset (layOut blocks) = none := by
  induction blocks generalizing bare offset with
  | nil => rfl
  | cons b blocks ih =>
    obtain ⟨token, repeated, hstar⟩ := b
    have hfirst : (token.isStar && bare) = false := by simp [hstar]
    cases repeated with
    | false => exact (misplacedStarFrom?_cons hfirst offset (layOut blocks)).trans (ih _ _)
    | true =>
      have hsecond : ((Token.star : Token σ).isStar && token.isStar) = false := by simp [hstar]
      calc misplacedStarFrom? bare offset (token :: .star :: layOut blocks)
          = misplacedStarFrom? token.isStar (offset + 1) (.star :: layOut blocks) :=
            misplacedStarFrom?_cons hfirst offset _
        _ = misplacedStarFrom? true (offset + 2) (layOut blocks) :=
            misplacedStarFrom?_cons hsecond (offset + 1) _
        _ = none := ih _ _

/-- Tokens without a misplaced star can be taken apart into blocks. -/
theorem exists_layOut_eq {tokens : List (Token σ)} {offset : Nat}
    (h : misplacedStarFrom? true offset tokens = none) : ∃ blocks, layOut blocks = tokens := by
  induction tokens using tokens_induction generalizing offset with
  | nil => exact ⟨[], rfl⟩
  | single token tokens hhead ih =>
    have hstar : token.isStar = false := head_not_star h
    rw [misplacedStarFrom?_cons (by simp [hstar]), misplacedStarFrom?_of_head hhead _ true] at h
    obtain ⟨blocks, rfl⟩ := ih h
    exact ⟨⟨token, false, hstar⟩ :: blocks, rfl⟩
  | repeated token tokens ih =>
    have hstar : token.isStar = false := head_not_star h
    rw [misplacedStarFrom?_cons (by simp [hstar]), misplacedStarFrom?_cons (by simp [hstar])] at h
    obtain ⟨blocks, rfl⟩ := ih h
    exact ⟨⟨token, true, hstar⟩ :: blocks, rfl⟩

end Block

/-- What stands behind the first fault has no part in it: the fronts before it are patterns, and the
first that is not one ends in it. -/
theorem isLeast_fault {tokens : List (Token σ)} {k : Nat} (h : misplacedStar? tokens = some k) :
    IsLeast {n | misplacedStar? (tokens.take n) = none ∧ misplacedStar? (tokens.take (n + 1)) ≠ none}
      k := by
  have htake : ∀ n, misplacedStar? (tokens.take n) = (some k).filter fun k => k < n := by
    intro n
    rw [misplacedStar?, misplacedStarFrom?_take, ← misplacedStar?, h, Nat.zero_add]
  refine ⟨⟨?_, ?_⟩, ?_⟩
  · rw [htake]
    simp
  · rw [htake]
    simp [Option.filter_some]
  · rintro n ⟨-, hfault⟩
    rw [htake] at hfault
    by_contra hlt
    refine hfault (Option.filter_eq_none_iff.mpr ?_)
    intro k' hk'
    obtain rfl := Option.some.inj hk'
    rw [decide_eq_true_eq]
    omega

namespace Pattern

/-- Every atom of a pattern is a token that is no star, with or without a star. -/
theorem not_star_of_mem_atoms {p : Pattern σ} {a : Atom σ} (ha : a ∈ p.atoms) :
    a.token.isStar = false := by
  obtain ⟨blocks, hblocks⟩ := Block.exists_layOut_eq p.wellFormed
  rw [atoms, ← hblocks] at ha
  obtain ⟨i, hi⟩ := List.mem_iff_getElem?.mp ha
  rw [Block.getElem?_ofTokensFrom_layOut, Option.map_eq_some_iff] at hi
  obtain ⟨b, -, rfl⟩ := hi
  exact b.not_star

/-- Tokens make a pattern exactly if they consist of blocks. The blocks are then the only ones, and
the atoms of the pattern are these blocks at their offsets, so that laying them out gives the tokens
back. Tokens that make no pattern are rejected for a star, at the least offset up to which they do and
behind which they do not; it leads the tokens exactly if that is the first. -/
theorem ofTokens_reads_blocks (tokens : List (Token σ)) :
    ((∃ p, ofTokens tokens = .ok p) ↔ ∃ blocks, Block.layOut blocks = tokens) ∧
    (∀ p, ofTokens tokens = .ok p →
      p.tokens = tokens ∧ (∃! blocks, Block.layOut blocks = tokens) ∧
      (∀ blocks, Block.layOut blocks = tokens → ∀ i, p.atoms[i]? =
        blocks[i]?.map fun b => Atom.mk (Block.layOut (blocks.take i)).length b.token b.repeated) ∧
      (∀ a ∈ p.atoms, a.token ≠ .star) ∧ p.atoms.flatMap Atom.toTokens = tokens) ∧
    ∀ e, ofTokens tokens = .error e →
      ∃ k, e.offset? = some k ∧ e.isMalformed = true ∧
        IsLeast {n | (∃ p, ofTokens (tokens.take n) = .ok p) ∧
          ¬ ∃ p, ofTokens (tokens.take (n + 1)) = .ok p} k ∧
        tokens[k]? = some .star ∧ (e = .leadingRepetition ↔ k = 0) := by
  refine ⟨?_, ?_, ?_⟩
  · rw [exists_ofTokens_eq_ok_iff]
    constructor
    · exact Block.exists_layOut_eq
    · rintro ⟨blocks, rfl⟩
      exact Block.misplacedStarFrom?_layOut true 0 blocks
  · intro p hp
    obtain rfl := ofTokens_eq_ok_iff.mp hp
    obtain ⟨blocks, hblocks⟩ := Block.exists_layOut_eq p.wellFormed
    refine ⟨rfl, ⟨blocks, hblocks, ?_⟩, ?_, ?_, p.atoms_toTokens⟩
    · intro blocks' hblocks'
      exact Block.layOut_inj (hblocks'.trans hblocks.symm)
    · intro blocks' hblocks' i
      rw [atoms, ← hblocks', Block.getElem?_ofTokensFrom_layOut, Nat.zero_add]
      rfl
    · intro a ha hstar
      have hnot := not_star_of_mem_atoms ha
      rw [hstar] at hnot
      cases hnot
  · intro e he
    obtain ⟨k, hk, rfl⟩ := ofTokens_eq_error_iff.mp he
    refine ⟨k, PatternError.offset?_misplaced k, PatternError.isMalformed_misplaced k, ?_,
      getElem?_of_misplacedStarFrom? hk, PatternError.misplaced_eq_leadingRepetition_iff⟩
    simp only [exists_ofTokens_eq_ok_iff]
    exact isLeast_fault hk

/-- A pattern of four blocks, and tokens with three stars in a row, of which the second is blamed. -/
theorem ofTokens_reads_blocks_three_stars :
    let p : Pattern UInt8 := ⟨[.lit 109, .lit 105, .star, .any, .any, .star], rfl⟩
    let stars : List (Token UInt8) := [.any, .lit 98, .star, .star, .star, .any]
    ofTokens p.tokens = .ok p ∧ p.atoms[3]? = some ⟨4, .any, true⟩ ∧
      ofTokens stars = .error (.repeatedRepetition 3) ∧
      IsLeast {n | (∃ q, ofTokens (stars.take n) = .ok q) ∧
        ¬ ∃ q, ofTokens (stars.take (n + 1)) = .ok q} 3 := by
  intro p stars
  let blocks : List (Block UInt8) :=
    [⟨.lit 109, false, rfl⟩, ⟨.lit 105, true, rfl⟩, ⟨.any, false, rfl⟩, ⟨.any, true, rfl⟩]
  have hp : ofTokens p.tokens = .ok p := rfl
  have hstars : ofTokens stars = .error (.repeatedRepetition 3) := rfl
  obtain ⟨-, -, hatoms, -⟩ := (ofTokens_reads_blocks p.tokens).2.1 p hp
  obtain ⟨k, hk, -, hleast, -⟩ := (ofTokens_reads_blocks stars).2.2 _ hstars
  obtain rfl : 3 = k := Option.some.inj hk
  exact ⟨hp, hatoms blocks rfl 3, hstars, hleast⟩

end Pattern

end StarMatch
