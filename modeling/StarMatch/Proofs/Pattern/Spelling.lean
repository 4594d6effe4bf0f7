import StarMatch.Pattern.Reading
import StarMatch.Proofs.Pattern.Fault
import StarMatch.Proofs.Text.Utf8

/-!
# Patterns read by their bytes

A written pattern can be read character by character or byte by byte. The second reading spells each
literal of the first by the bytes of its character and keeps all else: the reserved symbols are ASCII,
so they are not among the bytes of any other character. Both readings find the same fault first.
-/

namespace StarMatch

open Text

/-- The token over bytes that stands for a token over characters. -/
def Token.spelled : Token Char → List (Token UInt8)
  | .lit c => (String.utf8EncodeChar c).map .lit
  | .any => [.any]
  | .star => [.star]

/-- The tokens over bytes that stand for tokens over characters. -/
def spell (tokens : List (Token Char)) : List (Token UInt8) :=
  tokens.flatMap Token.spelled

@[simp] theorem spell_nil : spell [] = [] := rfl

@[simp] theorem spell_cons (token : Token Char) (tokens : List (Token Char)) :
    spell (token :: tokens) = token.spelled ++ spell tokens := rfl

section Spell

variable {tokens : List (Token Char)} {c : Char}

/-- What stands for a token that is no star begins with none. -/
theorem head_spell (h : tokens.head?.any Token.isStar = false) :
    (spell tokens).head?.any Token.isStar = false := by
  cases tokens with
  | nil => rfl
  | cons token tokens =>
    cases token with
    | lit c =>
      obtain ⟨lead, tail, hc⟩ := Utf8.exists_utf8EncodeChar_eq_cons c
      rw [spell_cons, Token.spelled, hc]
      rfl
    | any => rfl
    | star => cases h

/-- Only a star is spelled with one. -/
theorem star_mem_spell_iff : .star ∈ spell tokens ↔ .star ∈ tokens := by
  rw [spell, List.mem_flatMap]
  constructor
  · rintro ⟨token, htoken, hstar⟩
    cases token with
    | lit c => simp [Token.spelled] at hstar
    | any => simp [Token.spelled] at hstar
    | star => exact htoken
  · intro hstar
    exact ⟨.star, hstar, List.mem_singleton_self _⟩

theorem spelled_lit_of_ascii (h : c.toNat < 0x80) :
    (Token.lit c).spelled = [.lit (UInt8.ofNat c.toNat)] := by
  rw [Token.spelled, Utf8.utf8EncodeChar_one h, List.map_singleton]

end Spell

section Reading

variable {wildcard repetition : UInt8}

theorem ReservedSymbols.toNat_lt_of_checked {reserved : ReservedSymbols}
    (h : reserved.checked = .ok (wildcard, repetition)) :
    wildcard.toNat < 0x80 ∧ repetition.toNat < 0x80 := by
  unfold checked at h
  split at h
  · cases h
  split at h
  · cases h
  split at h
  · cases h
  · next hwildcard hrepetition _ =>
    obtain ⟨rfl, rfl⟩ := Prod.mk.inj (Except.ok.inj h)
    exact ⟨Nat.lt_of_not_le hwildcard, Nat.lt_of_not_le hrepetition⟩

theorem map_ofSymbol_utf8EncodeChar (hwildcard : wildcard.toNat < 0x80)
    (hrepetition : repetition.toNat < 0x80) (c : Char) :
    (String.utf8EncodeChar c).map (Token.ofSymbol wildcard repetition) =
      (Token.ofSymbol (Char.ofUInt8 wildcard) (Char.ofUInt8 repetition) c).spelled := by
  by_cases hany : c = Char.ofUInt8 wildcard
  · rw [hany, Utf8.utf8EncodeChar_ofUInt8 hwildcard]
    simp [Token.ofSymbol, Token.spelled]
  by_cases hstar : c = Char.ofUInt8 repetition
  · have hne : repetition ≠ wildcard := by
      rintro rfl
      exact hany hstar
    have hne' : Char.ofUInt8 repetition ≠ Char.ofUInt8 wildcard := hstar ▸ hany
    rw [hstar, Utf8.utf8EncodeChar_ofUInt8 hrepetition]
    simp [Token.ofSymbol, Token.spelled, hne, hne']
  · have hlit : ∀ b ∈ String.utf8EncodeChar c, Token.ofSymbol wildcard repetition b = .lit b := by
      intro b hb
      have hne : b ≠ wildcard := by
        rintro rfl
        exact hany ((Utf8.mem_utf8EncodeChar_iff hwildcard).mp hb)
      have hne' : b ≠ repetition := by
        rintro rfl
        exact hstar ((Utf8.mem_utf8EncodeChar_iff hrepetition).mp hb)
      simp [Token.ofSymbol, hne, hne']
    rw [List.map_congr_left hlit]
    simp [Token.ofSymbol, Token.spelled, hany, hstar]

theorem map_ofSymbol_encode (hwildcard : wildcard.toNat < 0x80)
    (hrepetition : repetition.toNat < 0x80) (text : List Char) :
    (Utf8.encode text).map (Token.ofSymbol wildcard repetition) =
      spell (text.map (Token.ofSymbol (Char.ofUInt8 wildcard) (Char.ofUInt8 repetition))) := by
  induction text with
  | nil => rfl
  | cons c text ih =>
    rw [Utf8.encode_cons, List.map_append, map_ofSymbol_utf8EncodeChar hwildcard hrepetition, ih,
      List.map_cons, spell_cons]

theorem misplacedStarFrom?_spelled_append {token : Token Char} {bare : Bool}
    (h : (token.isStar && bare) = false) (offset : Nat) (tokens : List (Token UInt8)) :
    misplacedStarFrom? bare offset (token.spelled ++ tokens) =
      misplacedStarFrom? token.isStar (offset + token.spelled.length) tokens := by
  cases token with
  | lit c =>
    rw [Token.spelled, misplacedStarFrom?_map_lit_append String.utf8EncodeChar_ne_nil,
      List.length_map]
    rfl
  | any => rfl
  | star =>
    rw [Token.isStar_star, Bool.true_and] at h
    rw [h]
    rfl

/-- The first fault of a pattern is the same in both readings, behind the same tokens. -/
theorem misplacedStarFrom?_spell (bare : Bool) (offset offset' : Nat) (tokens : List (Token Char)) :
    misplacedStarFrom? bare offset' (spell tokens) =
      (misplacedStarFrom? bare offset tokens).map
        fun k => offset' + (spell (tokens.take (k - offset))).length := by
  induction tokens generalizing bare offset offset' with
  | nil => rfl
  | cons token tokens ih =>
    cases hfault : token.isStar && bare with
    | true =>
      obtain ⟨hstar, rfl⟩ := Bool.and_eq_true_iff.mp hfault
      rw [Token.isStar_iff.mp hstar]
      simp [misplacedStarFrom?, Token.spelled]
    | false =>
      rw [spell_cons, misplacedStarFrom?_spelled_append hfault, misplacedStarFrom?_cons hfault,
        ih _ (offset + 1)]
      refine Option.map_congr fun k hk => ?_
      have hle : offset + 1 ≤ k := le_of_misplacedStarFrom? hk
      have htake : k - offset = k - (offset + 1) + 1 := by omega
      rw [htake, List.take_succ_cons, spell_cons, List.length_append, Nat.add_assoc]

namespace Pattern

variable {reserved : ReservedSymbols}

theorem exists_tokens_of_ofChars {text : List Char} {p : Pattern Char}
    (h : ofChars reserved text = .ok p) :
    ∃ wildcard repetition, reserved.checked = .ok (wildcard, repetition) ∧
      p.tokens = text.map (Token.ofSymbol (Char.ofUInt8 wildcard) (Char.ofUInt8 repetition)) := by
  rw [ofChars] at h
  split at h
  · cases h
  · next wildcard repetition hchecked =>
    exact ⟨wildcard, repetition, hchecked, ofTokens_eq_ok_iff.mp h⟩

theorem exists_tokens_of_ofBytes {text : List UInt8} {p : Pattern UInt8}
    (h : ofBytes reserved text = .ok p) :
    ∃ wildcard repetition, reserved.checked = .ok (wildcard, repetition) ∧
      p.tokens = text.map (Token.ofSymbol wildcard repetition) := by
  rw [ofBytes] at h
  split at h
  · cases h
  · next wildcard repetition hchecked =>
    exact ⟨wildcard, repetition, hchecked, ofTokens_eq_ok_iff.mp h⟩

theorem length_of_ofChars {text : List Char} {p : Pattern Char}
    (h : ofChars reserved text = .ok p) : p.length = text.length := by
  obtain ⟨wildcard, repetition, -, htokens⟩ := exists_tokens_of_ofChars h
  rw [length, htokens, List.length_map]

theorem length_of_ofBytes {text : List UInt8} {p : Pattern UInt8}
    (h : ofBytes reserved text = .ok p) : p.length = text.length := by
  obtain ⟨wildcard, repetition, -, htokens⟩ := exists_tokens_of_ofBytes h
  rw [length, htokens, List.length_map]

/-- A pattern that can be read character by character can be read byte by byte, and its literals are
then spelled by the bytes of their characters. -/
theorem exists_ofBytes_of_ofChars {text : List Char} {p : Pattern Char}
    (h : ofChars reserved text = .ok p) :
    ∃ q, ofBytes reserved (Utf8.encode text) = .ok q ∧ q.tokens = spell p.tokens := by
  obtain ⟨wildcard, repetition, hchecked, htokens⟩ := exists_tokens_of_ofChars h
  obtain ⟨hwildcard, hrepetition⟩ := ReservedSymbols.toNat_lt_of_checked hchecked
  have hspelled := map_ofSymbol_encode hwildcard hrepetition text
  rw [← htokens] at hspelled
  have hwellFormed : misplacedStar? (spell p.tokens) = none := by
    rw [misplacedStar?, misplacedStarFrom?_spell true 0, ← misplacedStar?, p.wellFormed]
    rfl
  refine ⟨⟨spell p.tokens, hwellFormed⟩, ?_, rfl⟩
  rw [ofBytes, hchecked]
  exact ofTokens_eq_ok_iff.mpr hspelled.symm

end Pattern

end Reading

end StarMatch
