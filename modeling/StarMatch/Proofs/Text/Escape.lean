import StarMatch.Proofs.Text.Chunks
import StarMatch.Text.Escape

/-!
# Escaping and resolving escapes

Every escape that is written is resolved to the byte it stands for, and resolving it takes up neither
more nor less than what was written. So what is resolved from an escaped list of bytes is that list,
whatever text comes behind it, and whether or not the bytes are UTF-8.
-/

namespace StarMatch.Text

open Utf8

section Hex

theorem toNat_hexDigit : ∀ n < 16, 0x20 ≤ (hexDigit n).toNat ∧ (hexDigit n).toNat < 0x7F := by
  decide

theorem hexValue?_hexDigit :
    ∀ n < 16, hexValue? (UInt8.ofNat (hexDigit n).toNat) = some (UInt8.ofNat n) := by
  decide

theorem encode_hexByte (b : UInt8) :
    encode (hexByte b) =
      [UInt8.ofNat (hexDigit (b.toNat / 16)).toNat,
        UInt8.ofNat (hexDigit (b.toNat % 16)).toNat] := by
  have hb : b.toNat < 256 := b.toNat_lt
  have hhigh := toNat_hexDigit (b.toNat / 16) (by omega)
  have hlow := toNat_hexDigit (b.toNat % 16) (by omega)
  rw [hexByte, encode_cons, encode_cons, encode_nil, utf8EncodeChar_one (Nat.lt_succ_of_lt hhigh.2),
    utf8EncodeChar_one (Nat.lt_succ_of_lt hlow.2), List.singleton_append, List.singleton_append]

/-- The digits of a byte have its value. -/
theorem hexPair?_hexDigit (b : UInt8) :
    hexPair? (UInt8.ofNat (hexDigit (b.toNat / 16)).toNat)
      (UInt8.ofNat (hexDigit (b.toNat % 16)).toNat) = some b := by
  have hb : b.toNat < 256 := b.toNat_lt
  rw [hexPair?, hexValue?_hexDigit _ (by omega), hexValue?_hexDigit _ (by omega)]
  refine congrArg some ?_
  calc 16 * UInt8.ofNat (b.toNat / 16) + UInt8.ofNat (b.toNat % 16)
      = UInt8.ofNat (16 * (b.toNat / 16) + b.toNat % 16) := by
        rw [UInt8.ofNat_add, UInt8.ofNat_mul]; rfl
    _ = b := by rw [Nat.div_add_mod, UInt8.ofNat_toNat]

end Hex

section Unescape

variable {b value high low letter : UInt8} {rest : List UInt8}

theorem unescape_cons_of_ne (h : b ≠ 0x5C) (rest : List UInt8) :
    unescape (b :: rest) = b :: unescape rest := by
  cases rest with
  | nil => rfl
  | cons c rest =>
    rw [unescape.eq_def]
    simp only [ne_eq, h, not_false_eq_true, if_true]

theorem unescape_letter (h : escapedLetter? letter = some value) (rest : List UInt8) :
    unescape (0x5C :: letter :: rest) = value :: unescape rest := by
  have hletter : letter ≠ 0x78 := by
    rintro rfl
    cases h
  rw [unescape.eq_def]
  simp only [ne_eq, not_true_eq_false, if_false, if_neg hletter, h]

theorem unescape_hexPair (h : hexPair? high low = some value) (rest : List UInt8) :
    unescape (0x5C :: 0x78 :: high :: low :: rest) = value :: unescape rest := by
  rw [unescape.eq_def]
  simp only [ne_eq, not_true_eq_false, if_false, if_true, h]

/-- A backslash and an x without two digits behind them are kept. -/
theorem unescape_of_no_digits
    (h : ∀ high low rest', rest = high :: low :: rest' → hexPair? high low = none) :
    unescape (0x5C :: 0x78 :: rest) = 0x5C :: 0x78 :: unescape rest := by
  rw [unescape.eq_def]
  match rest with
  | [] => rfl
  | [last] => rfl
  | high :: low :: rest' =>
    simp only [ne_eq, not_true_eq_false, if_false, if_true, h high low rest' rfl]

/-- A backslash and a letter that mean nothing together are kept. -/
theorem unescape_of_no_letter (hdigits : letter ≠ 0x78) (h : escapedLetter? letter = none) :
    unescape (0x5C :: letter :: rest) = 0x5C :: letter :: unescape rest := by
  rw [unescape.eq_def]
  simp only [ne_eq, not_true_eq_false, if_false, if_neg hdigits, h]

theorem unescape_append_of_ne {bytes : List UInt8} (h : ∀ b ∈ bytes, b ≠ 0x5C) (rest : List UInt8) :
    unescape (bytes ++ rest) = bytes ++ unescape rest := by
  induction bytes with
  | nil => rfl
  | cons b bytes ih =>
    have hb := h b List.mem_cons_self
    have htail := ih fun b' hb' => h b' (List.mem_cons_of_mem b hb')
    rw [List.cons_append, unescape_cons_of_ne hb, htail, List.cons_append]

end Unescape

section Escape

/-- The escape of a byte is resolved to that byte and to nothing of what is behind it. -/
theorem unescape_escapeByte (b : UInt8) (rest : List UInt8) :
    unescape (encode (escapeByte b) ++ rest) = b :: unescape rest := by
  fun_cases escapeByte b with
  | case1 h => exact h ▸ unescape_letter rfl rest
  | case2 _ h => exact h ▸ unescape_letter rfl rest
  | case3 _ _ h => exact h ▸ unescape_letter rfl rest
  | case4 _ _ _ h => exact h ▸ unescape_letter rfl rest
  | case5 _ _ _ hbackslash hprintable =>
    have hascii : b.toNat < 0x80 := Nat.lt_of_le_of_lt hprintable.2 (by decide)
    rw [encode_cons, utf8EncodeChar_ofUInt8 hascii]
    exact unescape_cons_of_ne hbackslash rest
  | case6 =>
    rw [encode_cons, encode_cons, encode_hexByte]
    exact unescape_hexPair (hexPair?_hexDigit b) rest

theorem unescape_escapeBytes (bytes rest : List UInt8) :
    unescape (encode (bytes.flatMap escapeByte) ++ rest) = bytes ++ unescape rest := by
  induction bytes with
  | nil => rfl
  | cons b bytes ih =>
    rw [List.flatMap_cons, encode_append, List.append_assoc, unescape_escapeByte, ih,
      List.cons_append]

/-- The text of a chunk is resolved to the bytes of the chunk. -/
theorem unescape_escapeChunk (chunk : Chunk) (rest : List UInt8) :
    unescape (encode (escapeChunk chunk) ++ rest) = chunk.bytes ++ unescape rest := by
  cases chunk with
  | scalar c =>
    rw [escapeChunk, Chunk.bytes]
    by_cases hascii : c.toNat < 0x80
    · rw [if_pos hascii, unescape_escapeByte, utf8EncodeChar_one hascii]
      rfl
    · rw [if_neg hascii, encode_cons, encode_nil, List.append_nil]
      refine unescape_append_of_ne ?_ rest
      rintro b hb rfl
      exact absurd (le_of_mem_utf8EncodeChar (Nat.le_of_not_lt hascii) hb) (by decide)
  | illFormed bytes => exact unescape_escapeBytes bytes rest

/-- However a list of bytes is cut into chunks, their texts are resolved to the list. -/
theorem unescape_escapeChunks (chunks : List Chunk) (rest : List UInt8) :
    unescape (encode (chunks.flatMap escapeChunk) ++ rest) =
      chunks.flatMap Chunk.bytes ++ unescape rest := by
  induction chunks with
  | nil => rfl
  | cons chunk chunks ih =>
    rw [List.flatMap_cons, encode_append, List.append_assoc, unescape_escapeChunk, ih,
      List.flatMap_cons, List.append_assoc]

end Escape

section Plain

variable {b : UInt8} {c : Char}

/-- Neither a control character of ASCII nor its delete character. -/
def IsPlain (c : Char) : Prop :=
  0x20 ≤ c.toNat ∧ c.toNat ≠ 0x7F

instance : DecidablePred IsPlain := fun _ => inferInstanceAs (Decidable (_ ∧ _))

theorem isPlain_hexDigit {n : Nat} (h : n < 16) : IsPlain (hexDigit n) :=
  ⟨(toNat_hexDigit n h).1, Nat.ne_of_lt (toNat_hexDigit n h).2⟩

theorem isPlain_of_mem_escapeByte : ∀ c ∈ escapeByte b, IsPlain c := by
  fun_cases escapeByte b with
  | case1 => simp [IsPlain]
  | case2 => simp [IsPlain]
  | case3 => simp [IsPlain]
  | case4 => simp [IsPlain]
  | case5 _ _ _ _ hprintable =>
    intro c hc
    rw [List.mem_singleton.mp hc, IsPlain, toNat_ofUInt8]
    exact ⟨hprintable.1, Nat.ne_of_lt (Nat.lt_succ_of_le hprintable.2)⟩
  | case6 =>
    have hb : b.toNat < 256 := b.toNat_lt
    intro c hc
    simp only [hexByte, List.mem_cons, List.not_mem_nil, or_false] at hc
    rcases hc with rfl | rfl | rfl | rfl
    · decide
    · decide
    · exact isPlain_hexDigit (by omega)
    · exact isPlain_hexDigit (by omega)

/-- No control character is written, whatever the bytes are. -/
theorem isPlain_of_mem_escapeChunk {chunk : Chunk} (h : c ∈ escapeChunk chunk) : IsPlain c := by
  cases chunk with
  | scalar c' =>
    by_cases hascii : c'.toNat < 0x80
    · rw [escapeChunk, if_pos hascii] at h
      exact isPlain_of_mem_escapeByte c h
    · rw [escapeChunk, if_neg hascii, List.mem_singleton] at h
      rw [h, IsPlain]
      omega
  | illFormed bytes =>
    obtain ⟨b, -, hb⟩ := List.mem_flatMap.mp h
    exact isPlain_of_mem_escapeByte c hb

theorem isPlain_iff : IsPlain c ↔ ∀ b ∈ String.utf8EncodeChar c, 0x20 ≤ b ∧ b ≠ 0x7F := by
  by_cases hascii : c.toNat < 0x80
  · have hbyte : c.toNat < 256 := by omega
    rw [utf8EncodeChar_one hascii, List.forall_mem_singleton, IsPlain, UInt8.le_iff_toNat_le, Ne,
      Ne, ofNat_eq_iff hbyte, toNat_ofNat_byte hbyte]
    rfl
  · have hwide : 0x80 ≤ c.toNat := Nat.le_of_not_lt hascii
    refine iff_of_true ⟨by omega, by omega⟩ fun b hb => ?_
    have hb' := le_of_mem_utf8EncodeChar hwide hb
    constructor
    · exact UInt8.le_iff_toNat_le.mpr (Nat.le_trans (by decide) hb')
    · rintro rfl
      exact absurd hb' (by decide)

theorem escapeByte_toUInt8 (hascii : c.toNat < 0x80) (hplain : IsPlain c) (hbackslash : c ≠ '\\') :
    escapeByte c.toUInt8 = [c] := by
  have hbyte : c.toUInt8.toNat = c.toNat :=
    Nat.mod_eq_of_lt (Nat.lt_of_lt_of_le hascii (by decide))
  have hchar : Char.ofUInt8 c.toUInt8 = c := Char.toNat_inj.mp (by rw [toNat_ofUInt8, hbyte])
  obtain ⟨hlow, hdelete⟩ := hplain
  fun_cases escapeByte c.toUInt8 with
  | case1 h => exact absurd hlow (by rw [← hbyte, h]; decide)
  | case2 _ h => exact absurd hlow (by rw [← hbyte, h]; decide)
  | case3 _ _ h => exact absurd hlow (by rw [← hbyte, h]; decide)
  | case4 _ _ _ h => exact absurd (hchar.symm.trans (congrArg Char.ofUInt8 h)) hbackslash
  | case5 => rw [hchar]
  | case6 _ _ _ _ hprintable =>
    refine absurd ?_ hprintable
    rw [UInt8.le_iff_toNat_le, UInt8.le_iff_toNat_le, hbyte]
    exact ⟨hlow, Nat.le_of_lt_succ (Nat.lt_of_le_of_ne (Nat.le_of_lt_succ hascii) hdelete)⟩

theorem escapeChunk_scalar (hplain : IsPlain c) (hbackslash : c ≠ '\\') :
    escapeChunk (.scalar c) = [c] := by
  rw [escapeChunk]
  split
  · exact escapeByte_toUInt8 ‹_› hplain hbackslash
  · rfl

theorem escape_encode {cs : List Char} (hplain : ∀ c ∈ cs, IsPlain c) (hbackslash : '\\' ∉ cs) :
    escape (encode cs) = cs := by
  rw [escape, chunks_encode]
  induction cs with
  | nil => rfl
  | cons c cs ih =>
    have hc : c ≠ '\\' := fun h => hbackslash (h ▸ List.mem_cons_self)
    have htail := ih (fun c' hc' => hplain c' (List.mem_cons_of_mem c hc'))
      (fun h => hbackslash (List.mem_cons_of_mem c h))
    rw [List.map_cons, List.flatMap_cons, escapeChunk_scalar (hplain c List.mem_cons_self) hc,
      htail, List.singleton_append]

end Plain

/-- However a list of bytes is cut into chunks, their texts are resolved to that list, leave the text
behind them as it was, and are free of control characters. So is the escaped text of the list, which is
one of these; and it is the text that the bytes spell, if they spell one without backslashes and control
characters. -/
theorem unescape_encode_escape (bytes : List UInt8) :
    (∀ chunks : List Chunk, chunks.flatMap Chunk.bytes = bytes →
      (∀ rest, unescape (encode (chunks.flatMap escapeChunk) ++ rest) = bytes ++ unescape rest) ∧
        ∀ b ∈ encode (chunks.flatMap escapeChunk), 0x20 ≤ b ∧ b ≠ 0x7F) ∧
      (∀ rest, unescape (encode (escape bytes) ++ rest) = bytes ++ unescape rest) ∧
      unescape (encode (escape bytes)) = bytes ∧
      (∀ b ∈ encode (escape bytes), 0x20 ≤ b ∧ b ≠ 0x7F) ∧
      ∀ cs, encode cs = bytes → (∀ b ∈ bytes, b ≠ 0x5C ∧ 0x20 ≤ b ∧ b ≠ 0x7F) →
        escape bytes = cs ∧ encode (escape bytes) = bytes := by
  have hcut : ∀ chunks : List Chunk, chunks.flatMap Chunk.bytes = bytes →
      (∀ rest, unescape (encode (chunks.flatMap escapeChunk) ++ rest) = bytes ++ unescape rest) ∧
        ∀ b ∈ encode (chunks.flatMap escapeChunk), 0x20 ≤ b ∧ b ≠ 0x7F := by
    intro chunks hchunks
    constructor
    · intro rest
      rw [unescape_escapeChunks, hchunks]
    · intro b hb
      obtain ⟨c, hc, hbc⟩ := List.mem_flatMap.mp hb
      obtain ⟨chunk, -, hchunk⟩ := List.mem_flatMap.mp hc
      exact isPlain_iff.mp (isPlain_of_mem_escapeChunk hchunk) b hbc
  obtain ⟨hresolved, hprinted⟩ := hcut (chunks bytes) (flatMap_bytes_chunks bytes)
  refine ⟨hcut, hresolved, ?_, hprinted, ?_⟩
  · have h := hresolved []
    rwa [List.append_nil, unescape, List.append_nil] at h
  · rintro cs rfl hbytes
    have hmem : ∀ c ∈ cs, ∀ b ∈ String.utf8EncodeChar c, b ∈ encode cs :=
      fun c hc b hb => List.mem_flatMap.mpr ⟨c, hc, hb⟩
    have hplain : ∀ c ∈ cs, IsPlain c :=
      fun c hc => isPlain_iff.mpr fun b hb => (hbytes b (hmem c hc b hb)).2
    have hbackslash : '\\' ∉ cs :=
      fun h => (hbytes 0x5C (hmem '\\' h 0x5C (by decide))).1 rfl
    have hcs := escape_encode hplain hbackslash
    exact ⟨hcs, congrArg encode hcs⟩

/-- The replacement character is not mistaken for a chunk that is replaced, and a character that is cut
in two is put together again. -/
theorem unescape_encode_escape_replacement :
    unescape (encode (escape [0xFF, 0x5C, 0x0A, 0xEF, 0xBF, 0xBD]) ++ [0x6E]) =
        [0xFF, 0x5C, 0x0A, 0xEF, 0xBF, 0xBD, 0x6E] ∧
      escape [0xEF, 0xBF, 0xBD, 0x61] = ['\uFFFD', 'a'] ∧
      unescape (encode ([.illFormed [0xC3], .illFormed [0xA9]].flatMap escapeChunk) ++ [0x6E]) =
        [0xC3, 0xA9, 0x6E] :=
  ⟨(unescape_encode_escape [0xFF, 0x5C, 0x0A, 0xEF, 0xBF, 0xBD]).2.1 [0x6E],
    ((unescape_encode_escape [0xEF, 0xBF, 0xBD, 0x61]).2.2.2.2 ['\uFFFD', 'a'] rfl
      (by decide +kernel)).1,
    ((unescape_encode_escape [0xC3, 0xA9]).1 _ rfl).1 [0x6E]⟩

end StarMatch.Text
