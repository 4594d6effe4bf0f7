import StarMatch.Proofs.Text.Blank
import StarMatch.Proofs.Text.Units

/-!
# White space at the end of a shown text

Some white space is shown as it is: the space, and all white space beyond ASCII. Where white space at the
end of a shown text is taken off, nothing else is lost of the bytes that are shown.
-/

namespace StarMatch.Text

open Utf8

/-- White space that is shown as it is. -/
def IsPad (c : Char) : Prop :=
  isBlank c = true ∧ IsPlain c

instance : DecidablePred IsPad := fun _ => inferInstanceAs (Decidable (_ ∧ _))

/-- Two lists of bytes that differ only in white space at their end, and only in such white space as is
shown as it is. -/
def SameButPads (bytes bytes' : List UInt8) : Prop :=
  ∃ core pads pads', bytes = core ++ encode pads ∧ bytes' = core ++ encode pads' ∧
    (∀ c ∈ pads, IsPad c) ∧ ∀ c ∈ pads', IsPad c

/-- A byte that has no part in an escape. -/
structure IsInert (b : UInt8) : Prop where
  not_backslash : b ≠ 0x5C
  not_letter : b ≠ 0x78 ∧ escapedLetter? b = none
  not_digit : hexValue? b = none

section Inert

variable {b : UInt8} {tail : List UInt8}

theorem isInert_space : IsInert 0x20 := by
  constructor <;> decide

theorem isInert_of_le (h : 0x80 ≤ b.toNat) : IsInert b := by
  have hne : ∀ b' : UInt8, b'.toNat < 0x80 → b ≠ b' := by
    rintro b' hb' rfl
    exact absurd h (Nat.not_le_of_lt hb')
  have hnot : ∀ low high : UInt8, high.toNat < 0x80 → ¬ (low ≤ b ∧ b ≤ high) :=
    fun _ _ hhigh hb => absurd (Nat.le_trans h hb.2) (Nat.not_le_of_lt hhigh)
  refine ⟨hne _ (by decide), ⟨hne _ (by decide), ?_⟩, ?_⟩
  · rw [escapedLetter?, if_neg (hne _ (by decide)), if_neg (hne _ (by decide)),
      if_neg (hne _ (by decide)), if_neg (hne _ (by decide))]
  · rw [hexValue?, if_neg (hnot _ _ (by decide)), if_neg (hnot _ _ (by decide)),
      if_neg (hnot _ _ (by decide))]

theorem hexPair?_of_isInert {high low : UInt8} (h : IsInert high ∨ IsInert low) :
    hexPair? high low = none := by
  rw [hexPair?]
  rcases h with h | h
  · rw [h.not_digit]
  · rw [h.not_digit]
    cases hexValue? high <;> rfl

/-- No two digits come up where bytes that have no part in an escape come behind a text. -/
theorem hexPair?_of_append {high low : UInt8} {rest rest' : List UInt8}
    (h : ∀ high low rest', rest = high :: low :: rest' → hexPair? high low = none)
    (htail : ∀ b ∈ tail, IsInert b) (happend : rest ++ tail = high :: low :: rest') :
    hexPair? high low = none := by
  match rest with
  | [] =>
    obtain rfl : tail = high :: low :: rest' := happend
    exact hexPair?_of_isInert (.inl (htail high List.mem_cons_self))
  | [first] =>
    simp only [List.singleton_append, List.cons.injEq] at happend
    obtain ⟨-, rfl⟩ := happend
    exact hexPair?_of_isInert (.inr (htail low List.mem_cons_self))
  | first :: second :: rest =>
    simp only [List.cons_append, List.cons.injEq] at happend
    obtain ⟨rfl, rfl, -⟩ := happend
    exact h first second rest rfl

/-- The unit in front of a text is the same if bytes that have no part in an escape come behind the
text, unless the text is a backslash alone. -/
theorem TextUnit.Leads.append {u : TextUnit} {text rest : List UInt8} (h : u.Leads text rest)
    (htext : text ≠ [0x5C]) (htail : ∀ b ∈ tail, IsInert b) :
    u.Leads (text ++ tail) (rest ++ tail) := by
  cases h with
  | single h rest => exact .single h _
  | last => exact absurd rfl htext
  | digits h rest => exact .digits h _
  | pair h =>
    exact .pair fun hletter _ _ _ happend => hexPair?_of_append (h hletter) htail happend

/-- Bytes at the end of a text that have no part in an escape are kept, whatever is in front of them. -/
theorem unescape_append_of_isInert (htail : ∀ b ∈ tail, IsInert b) (text : List UInt8) :
    unescape (text ++ tail) = unescape text ++ tail := by
  obtain ⟨units, hunits⟩ := exists_isUnits text
  have hkept : unescape tail = tail := by
    have happend := unescape_append_of_ne (fun b hb => (htail b hb).not_backslash) []
    rwa [List.append_nil, unescape, List.append_nil] at happend
  induction hunits with
  | nil => exact hkept
  | @cons u text rest units hleads _ ih =>
    by_cases htext : text = [0x5C]
    -- A backslash alone is taken up together with the byte behind it, and both are kept.
    · subst htext
      cases tail with
      | nil => rfl
      | cons b tail =>
        have hb := htail b List.mem_cons_self
        rw [unescape_cons_of_ne hb.not_backslash] at hkept
        rw [List.singleton_append, unescape_of_no_letter hb.not_letter.1 hb.not_letter.2,
          (List.cons.inj hkept).2]
        rfl
    · rw [(hleads.append htext htail).unescape_eq, ih, hleads.unescape_eq, List.append_assoc]

end Inert

section Pads

variable {c : Char} {bytes bytes' : List UInt8} {pads : List Char}

theorem IsPad.eq_space (h : IsPad c) (hascii : c.toNat < 0x80) : c = ' ' := by
  obtain ⟨hblank, hplain⟩ := h
  rw [isBlank, List.any_eq_true] at hblank
  obtain ⟨range, hrange, hbetween⟩ := hblank
  rw [← Char.toNat_inj]
  simp only [blankRanges, List.mem_cons, List.not_mem_nil, or_false] at hrange
  simp only [Bool.and_eq_true, decide_eq_true_eq] at hbetween
  have hlow := hplain.1
  rcases hrange with rfl | rfl | rfl | rfl | rfl | rfl | rfl | rfl | rfl | rfl <;>
    simp only at hbetween <;> simp only [Char.reduceToNat] <;> omega

theorem isInert_of_mem_encode (hpads : ∀ c ∈ pads, IsPad c) : ∀ b ∈ encode pads, IsInert b := by
  intro b hb
  obtain ⟨c, hc, hbc⟩ := List.mem_flatMap.mp hb
  by_cases hascii : c.toNat < 0x80
  · obtain rfl := (hpads c hc).eq_space hascii
    rw [utf8EncodeChar_one hascii, List.mem_singleton] at hbc
    exact hbc ▸ isInert_space
  · exact isInert_of_le (le_of_mem_utf8EncodeChar (Nat.le_of_not_lt hascii) hbc)

/-- White space at the end of a list of bytes is shown behind what is shown for the bytes in front of
it. -/
theorem escape_append_encode_pads (bytes : List UInt8) (hpads : ∀ c ∈ pads, IsPad c) :
    escape (bytes ++ encode pads) = escape bytes ++ pads := by
  have hbackslash : '\\' ∉ pads := fun h => absurd (hpads _ h) (by decide)
  have hshown := escape_encode (fun c hc => (hpads c hc).2) hbackslash
  rw [escape] at hshown
  rw [escape, chunks_append_encode, List.flatMap_append, hshown, escape]

theorem isPlain_of_mem_escape (h : c ∈ escape bytes) : IsPlain c := by
  obtain ⟨chunk, -, hchunk⟩ := List.mem_flatMap.mp h
  exact isPlain_of_mem_escapeChunk hchunk

theorem unescape_shown (bytes : List UInt8) : unescape (encode (escape bytes)) = bytes := by
  have hresolved := unescape_escapeChunks (chunks bytes) []
  rwa [flatMap_bytes_chunks, unescape, List.append_nil, List.append_nil, ← escape] at hresolved

theorem escape_injective : Function.Injective escape := by
  have hleft : Function.LeftInverse (unescape ∘ encode) escape := unescape_shown
  exact hleft.injective

/-- What is taken off the end of a shown text is white space at the end of the bytes. -/
theorem exists_pads (bytes : List UInt8) :
    ∃ pads, bytes = unescape (encode (trimBack (escape bytes))) ++ encode pads ∧
      ∀ c ∈ pads, IsPad c := by
  let pads := (escape bytes).rtakeWhile isBlank
  have hsplit : trimBack (escape bytes) ++ pads = escape bytes :=
    List.rdropWhile_append_rtakeWhile
  have hpads : ∀ c ∈ pads, IsPad c := fun c hc =>
    ⟨List.mem_rtakeWhile_imp hc,
      isPlain_of_mem_escape (hsplit ▸ List.mem_append_right _ hc)⟩
  refine ⟨pads, ?_, hpads⟩
  calc bytes
      = unescape (encode (trimBack (escape bytes) ++ pads)) := by rw [hsplit, unescape_shown]
    _ = unescape (encode (trimBack (escape bytes))) ++ encode pads := by
      rw [encode_append, unescape_append_of_isInert (isInert_of_mem_encode hpads)]

theorem newline_not_mem_escape (bytes : List UInt8) : '\n' ∉ escape bytes :=
  fun h => absurd (isPlain_of_mem_escape h) (by decide)

/-- The line feed behind what is shown for a list of bytes tells where that ends. -/
theorem escape_append_newline_eq_iff {text text' : List Char} :
    escape bytes ++ '\n' :: text = escape bytes' ++ '\n' :: text' ↔ bytes = bytes' ∧ text = text' := by
  have hfirst : ∀ bytes text, (escape bytes ++ '\n' :: text).takeWhile (· != '\n') = escape bytes := by
    intro bytes text
    rw [List.takeWhile_append_of_pos fun c hc => ?_, List.takeWhile_cons_of_neg (by decide),
      List.append_nil]
    exact bne_iff_ne.mpr fun h => newline_not_mem_escape bytes (h ▸ hc)
  constructor
  · intro h
    have hshown := congrArg (List.takeWhile (· != '\n')) h
    rw [hfirst, hfirst] at hshown
    obtain rfl := escape_injective hshown
    exact ⟨rfl, (List.cons.inj (List.append_cancel_left h)).2⟩
  · rintro ⟨rfl, rfl⟩
    rfl

/-- Two lists of bytes are shown alike up to white space at the end exactly if they are the same up to
such white space at their end as is shown as it is. -/
theorem trimBack_escape_eq_iff :
    trimBack (escape bytes) = trimBack (escape bytes') ↔ SameButPads bytes bytes' := by
  constructor
  · intro h
    obtain ⟨pads, hbytes, hpads⟩ := exists_pads bytes
    obtain ⟨pads', hbytes', hpads'⟩ := exists_pads bytes'
    exact ⟨_, pads, pads', hbytes, h ▸ hbytes', hpads, hpads'⟩
  · rintro ⟨core, pads, pads', rfl, rfl, hpads, hpads'⟩
    have htrim : ∀ pads : List Char, (∀ c ∈ pads, IsPad c) → trimBack pads = [] :=
      fun pads hpads => List.rdropWhile_eq_nil_iff.mpr fun c hc => (hpads c hc).1
    rw [escape_append_encode_pads core hpads, escape_append_encode_pads core hpads',
      trimBack_append_of_eq_nil (htrim pads hpads), trimBack_append_of_eq_nil (htrim pads' hpads')]

end Pads

end StarMatch.Text
