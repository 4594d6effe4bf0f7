import StarMatch.Proofs.Pattern.Spelling

/-!
# Both readings of a text fail together

Reading a text character by character and reading its bytes fail for the same choices of reserved
symbols and for the same texts. A fault of the text is one star, which has an offset among the
characters and another among the bytes: as many bytes stand before it as the characters before it are
spelled with.
-/

namespace StarMatch

open Text

/-- The error of the second reading that says the same of the text. -/
def PatternError.inBytes (text : List Char) : PatternError → PatternError
  | .leadingRepetition => .leadingRepetition
  | .repeatedRepetition k => .repeatedRepetition (Utf8.encode (text.take k)).length
  | .reservedConflict symbol => .reservedConflict symbol
  | .nonAsciiReserved symbol => .nonAsciiReserved symbol

namespace PatternError

variable {text : List Char}

theorem offset?_inBytes {e : PatternError} :
    (e.inBytes text).offset? = e.offset?.map fun k => (Utf8.encode (text.take k)).length := by
  cases e <;> rfl

theorem inBytes_of_not_malformed {e : PatternError} (h : e.isMalformed = false) :
    e.inBytes text = e := by
  cases e with
  | leadingRepetition => rfl
  | repeatedRepetition k => cases h
  | reservedConflict symbol => rfl
  | nonAsciiReserved symbol => rfl

/-- Characters before the star are spelled with bytes before it. -/
theorem inBytes_misplaced {k : Nat} (hk : k < text.length) :
    (misplaced k).inBytes text = misplaced (Utf8.encode (text.take k)).length := by
  cases k with
  | zero => rfl
  | succ k =>
    have htake : Utf8.encode (text.take (k + 1)) ≠ [] := by
      rw [Ne, Utf8.encode_eq_nil_iff, List.take_eq_nil_iff]
      rintro (hzero | rfl)
      · cases hzero
      · cases hk
    obtain ⟨length, hlength⟩ := Nat.exists_eq_succ_of_ne_zero (mt List.eq_nil_of_length_eq_zero htake)
    rw [misplaced, inBytes, hlength, misplaced]

end PatternError

namespace ReservedSymbols

variable {reserved : ReservedSymbols} {e : PatternError}

/-- The reserved symbols are ASCII and different. -/
def Usable (reserved : ReservedSymbols) : Prop :=
  reserved.wildcard < 0x80 ∧ reserved.repetition < 0x80 ∧ reserved.wildcard ≠ reserved.repetition

instance (reserved : ReservedSymbols) : Decidable reserved.Usable :=
  inferInstanceAs (Decidable (_ ∧ _ ∧ _))

theorem checked_of_usable (h : reserved.Usable) :
    reserved.checked = .ok (reserved.wildcard, reserved.repetition) := by
  rw [checked, if_neg (UInt8.not_le.mpr h.1), if_neg (UInt8.not_le.mpr h.2.1), if_neg h.2.2]

theorem exists_error_of_not_usable (h : ¬ reserved.Usable) :
    ∃ e, reserved.checked = .error e ∧ e.isMalformed = false := by
  unfold checked
  split
  · exact ⟨_, rfl, rfl⟩
  split
  · exact ⟨_, rfl, rfl⟩
  split
  · exact ⟨_, rfl, rfl⟩
  · next hwildcard hrepetition hne =>
    exact absurd ⟨UInt8.not_le.mp hwildcard, UInt8.not_le.mp hrepetition, hne⟩ h

end ReservedSymbols

namespace Pattern

variable {reserved : ReservedSymbols} {wildcard repetition : UInt8} {e : PatternError}

theorem ofChars_of_unchecked (h : reserved.checked = .error e) (text : List Char) :
    ofChars reserved text = .error e := by
  rw [ofChars, h]

theorem ofBytes_of_unchecked (h : reserved.checked = .error e) (bytes : List UInt8) :
    ofBytes reserved bytes = .error e := by
  rw [ofBytes, h]

theorem ofChars_of_checked (h : reserved.checked = .ok (wildcard, repetition)) (text : List Char) :
    ofChars reserved text =
      ofTokens (text.map (Token.ofSymbol (Char.ofUInt8 wildcard) (Char.ofUInt8 repetition))) := by
  rw [ofChars, h]

theorem ofBytes_of_checked (h : reserved.checked = .ok (wildcard, repetition))
    (bytes : List UInt8) :
    ofBytes reserved bytes = ofTokens (bytes.map (Token.ofSymbol wildcard repetition)) := by
  rw [ofBytes, h]

/-- Among the bytes of a text, the first misplaced star stands behind the bytes of the characters
before it. -/
theorem misplacedStar?_map_encode (hwildcard : wildcard.toNat < 0x80)
    (hrepetition : repetition.toNat < 0x80) (text : List Char) :
    misplacedStar? ((Utf8.encode text).map (Token.ofSymbol wildcard repetition)) =
      (misplacedStar?
        (text.map (Token.ofSymbol (Char.ofUInt8 wildcard) (Char.ofUInt8 repetition)))).map
          fun k => (Utf8.encode (text.take k)).length := by
  rw [map_ofSymbol_encode hwildcard hrepetition, misplacedStar?, misplacedStarFrom?_spell true 0,
    ← misplacedStar?]
  refine Option.map_congr fun k _ => ?_
  rw [Nat.zero_add, Nat.sub_zero, ← List.map_take, ← map_ofSymbol_encode hwildcard hrepetition,
    List.length_map]

theorem ofBytes_encode_of_error {text : List Char} (h : ofChars reserved text = .error e) :
    ofBytes reserved (Utf8.encode text) = .error (e.inBytes text) := by
  by_cases husable : reserved.Usable
  · have hchecked := ReservedSymbols.checked_of_usable husable
    rw [ofChars_of_checked hchecked] at h
    obtain ⟨k, hk, rfl⟩ := ofTokens_eq_error_iff.mp h
    have hstar := getElem?_of_misplacedStarFrom? hk
    obtain ⟨hlt, -⟩ := List.getElem?_eq_some_iff.mp hstar
    rw [Nat.sub_zero, List.length_map] at hlt
    rw [PatternError.inBytes_misplaced hlt, ofBytes_of_checked hchecked, ofTokens_eq_error_iff]
    refine ⟨_, ?_, rfl⟩
    rw [misplacedStar?_map_encode husable.1 husable.2.1, hk, Option.map_some]
  · obtain ⟨e', hunchecked, hkind⟩ := ReservedSymbols.exists_error_of_not_usable husable
    rw [ofChars_of_unchecked hunchecked] at h
    obtain rfl := Except.error.inj h
    rw [ofBytes_of_unchecked hunchecked, PatternError.inBytes_of_not_malformed hkind]

/-- The two readings of a text fail together, with errors of one kind. Reserved symbols that cannot be
used are reported by both alike, whatever the text is, and other errors are faults of the text: one
behind some characters is one behind their bytes. Where the readings succeed, the second has the bytes
of a character for each literal of the first, and the same wildcards and stars. -/
theorem readings_agree (reserved : ReservedSymbols) (text : List Char) :
    ((∃ e, ofChars reserved text = .error e) ↔
      ∃ e, ofBytes reserved (Utf8.encode text) = .error e) ∧
    (∀ p, ofChars reserved text = .ok p → ∃ q, ofBytes reserved (Utf8.encode text) = .ok q ∧
      q.tokens = p.tokens.flatMap Token.spelled) ∧
    (∀ e, ofChars reserved text = .error e →
      ofBytes reserved (Utf8.encode text) = .error (e.inBytes text) ∧
      ∀ k, e.offset? = some k →
        (e.inBytes text).offset? = some (Utf8.encode (text.take k)).length) ∧
    (¬ reserved.Usable → ∃ e, e.isMalformed = false ∧
      ∀ text' bytes, ofChars reserved text' = .error e ∧ ofBytes reserved bytes = .error e) ∧
    (reserved.Usable → ∀ e, ofChars reserved text = .error e → e.isMalformed = true) := by
  have herror : ∀ e, ofChars reserved text = .error e →
      ofBytes reserved (Utf8.encode text) = .error (e.inBytes text) :=
    fun e => ofBytes_encode_of_error
  refine ⟨⟨?_, ?_⟩, ?_, ?_, ?_, ?_⟩
  · rintro ⟨e, he⟩
    exact ⟨_, herror e he⟩
  · rintro ⟨e', he'⟩
    cases hread : ofChars reserved text with
    | error e => exact ⟨e, rfl⟩
    | ok p =>
      obtain ⟨q, hq, -⟩ := exists_ofBytes_of_ofChars hread
      rw [hq] at he'
      cases he'
  · intro p hp
    exact exists_ofBytes_of_ofChars hp
  · intro e he
    refine ⟨herror e he, ?_⟩
    intro k hk
    rw [PatternError.offset?_inBytes, hk, Option.map_some]
  · intro husable
    obtain ⟨e, hunchecked, hkind⟩ := ReservedSymbols.exists_error_of_not_usable husable
    exact ⟨e, hkind, fun text' bytes =>
      ⟨ofChars_of_unchecked hunchecked text', ofBytes_of_unchecked hunchecked bytes⟩⟩
  · intro husable e he
    rw [ofChars_of_checked (ReservedSymbols.checked_of_usable husable)] at he
    obtain ⟨k, -, rfl⟩ := ofTokens_eq_error_iff.mp he
    exact PatternError.isMalformed_misplaced k

/-- A star behind three characters stands behind four bytes, a star behind a literal of two bytes
repeats the second of them, and a wildcard that is the repetition symbol too is no choice. -/
theorem readings_agree_wide_literal :
    let fault := ['.', 'é', '*', '*']
    let p : Pattern Char := ⟨[.lit 'é', .star, .any], rfl⟩
    let clash : ReservedSymbols := { wildcard? := some 0x2A }
    ofChars {} fault = .error (.repeatedRepetition 3) ∧
      ofBytes {} (Utf8.encode fault) = .error (.repeatedRepetition 4) ∧
      ofChars {} ['é', '*', '.'] = .ok p ∧
      (∃ q, ofBytes {} (Utf8.encode ['é', '*', '.']) = .ok q ∧
        q.tokens = [.lit 0xC3, .lit 0xA9, .star, .any]) ∧
      ¬ clash.Usable ∧ ∃ e, e.isMalformed = false ∧
        ofChars clash fault = .error e ∧ ofBytes clash (Utf8.encode fault) = .error e := by
  intro fault p clash
  have hfault : ofChars {} fault = .error (.repeatedRepetition 3) := rfl
  have hp : ofChars {} ['é', '*', '.'] = .ok p := rfl
  have hclash : ¬ clash.Usable := by decide
  obtain ⟨-, -, hbytes, -⟩ := readings_agree {} fault
  obtain ⟨-, hread, -⟩ := readings_agree {} ['é', '*', '.']
  obtain ⟨-, -, -, hunusable, -⟩ := readings_agree clash fault
  obtain ⟨e, hkind, he⟩ := hunusable hclash
  exact ⟨hfault, (hbytes _ hfault).1, hp, hread p hp, hclash, e, hkind, he _ _⟩

end Pattern

end StarMatch
