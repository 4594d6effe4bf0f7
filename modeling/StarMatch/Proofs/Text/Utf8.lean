import Mathlib.Data.List.Forall2
import StarMatch.Text.Utf8

/-!
# Characters and their bytes

A lead byte and the bytes behind it are the encoding of a character exactly if each of these lies in
its range, and the character is then the one whose number they carry. So a character can be read off
the front of a list of bytes in one way only, and cutting bytes into chunks loses none of them. A
byte behind a lead byte is never a lead byte itself, so a cut through a list of encoded characters
leaves such bytes in front of the characters that are whole.
-/

namespace StarMatch.Text.Utf8

variable {c : Char} {lead : UInt8} {tail : List UInt8}

section Encoding

theorem utf8EncodeChar_one (h : c.toNat < 0x80) :
    String.utf8EncodeChar c = [UInt8.ofNat c.toNat] := by
  simp only [String.utf8EncodeChar, Char.toNat_val]
  rw [if_pos (by omega)]

theorem utf8EncodeChar_two (h : 0x80 ≤ c.toNat) (h' : c.toNat < 0x800) :
    String.utf8EncodeChar c =
      [UInt8.ofNat (c.toNat / 64 + 0xC0), UInt8.ofNat (c.toNat % 64 + 0x80)] := by
  have hlead : c.toNat / 64 % 0x20 = c.toNat / 64 := by omega
  simp only [String.utf8EncodeChar, Char.toNat_val]
  rw [if_neg (by omega), if_pos (by omega), hlead]

theorem utf8EncodeChar_three (h : 0x800 ≤ c.toNat) (h' : c.toNat < 0x10000) :
    String.utf8EncodeChar c =
      [UInt8.ofNat (c.toNat / 4096 + 0xE0), UInt8.ofNat (c.toNat / 64 % 64 + 0x80),
        UInt8.ofNat (c.toNat % 64 + 0x80)] := by
  have hlead : c.toNat / 4096 % 0x10 = c.toNat / 4096 := by omega
  simp only [String.utf8EncodeChar, Char.toNat_val]
  rw [if_neg (by omega), if_neg (by omega), if_pos (by omega), hlead]

theorem utf8EncodeChar_four (h : 0x10000 ≤ c.toNat) :
    String.utf8EncodeChar c =
      [UInt8.ofNat (c.toNat / 262144 + 0xF0), UInt8.ofNat (c.toNat / 4096 % 64 + 0x80),
        UInt8.ofNat (c.toNat / 64 % 64 + 0x80), UInt8.ofNat (c.toNat % 64 + 0x80)] := by
  have hvalid : c.toNat < 0xD800 ∨ 0xDFFF < c.toNat ∧ c.toNat < 0x110000 := c.valid
  have hlead : c.toNat / 262144 % 0x08 = c.toNat / 262144 := by omega
  simp only [String.utf8EncodeChar, Char.toNat_val]
  rw [if_neg (by omega), if_neg (by omega), if_neg (by omega), hlead]

end Encoding

/-- The bytes behind a lead byte that make it a character: each lies in its range. -/
def Completes (lead : UInt8) (tail : List UInt8) : Prop :=
  ∃ ranges, trailRanges? lead = some ranges ∧
    List.Forall₂ (fun range b => range.1 ≤ b ∧ b ≤ range.2) ranges tail

section Completes

variable {b b' b'' : UInt8}

theorem completes_nil_iff : Completes lead [] ↔ lead.toNat < 0x80 := by
  unfold Completes
  fun_cases trailRanges? lead <;>
    simp only [UInt8.lt_iff_toNat_lt, ← UInt8.toNat_inj, UInt8.reduceToNat] at * <;>
    simp <;> omega

theorem completes_one_iff :
    Completes lead [b] ↔
      (0xC2 ≤ lead.toNat ∧ lead.toNat < 0xE0) ∧ 0x80 ≤ b.toNat ∧ b.toNat < 0xC0 := by
  unfold Completes
  fun_cases trailRanges? lead <;>
    simp only [UInt8.lt_iff_toNat_lt, ← UInt8.toNat_inj, UInt8.reduceToNat] at * <;>
    simp [UInt8.le_iff_toNat_le] <;> omega

theorem completes_two_iff :
    Completes lead [b, b'] ↔
      (0xE0 ≤ lead.toNat ∧ lead.toNat < 0xF0) ∧ (0x80 ≤ b.toNat ∧ b.toNat < 0xC0) ∧
        (0x80 ≤ b'.toNat ∧ b'.toNat < 0xC0) ∧ (lead.toNat = 0xE0 → 0xA0 ≤ b.toNat) ∧
          (lead.toNat = 0xED → b.toNat < 0xA0) := by
  unfold Completes
  fun_cases trailRanges? lead <;>
    simp only [UInt8.lt_iff_toNat_lt, ← UInt8.toNat_inj, UInt8.reduceToNat] at * <;>
    simp [UInt8.le_iff_toNat_le] <;> omega

theorem completes_three_iff :
    Completes lead [b, b', b''] ↔
      (0xF0 ≤ lead.toNat ∧ lead.toNat < 0xF5) ∧ (0x80 ≤ b.toNat ∧ b.toNat < 0xC0) ∧
        (0x80 ≤ b'.toNat ∧ b'.toNat < 0xC0) ∧ (0x80 ≤ b''.toNat ∧ b''.toNat < 0xC0) ∧
          (lead.toNat = 0xF0 → 0x90 ≤ b.toNat) ∧ (lead.toNat = 0xF4 → b.toNat < 0x90) := by
  unfold Completes
  fun_cases trailRanges? lead <;>
    simp only [UInt8.lt_iff_toNat_lt, ← UInt8.toNat_inj, UInt8.reduceToNat] at * <;>
    simp [UInt8.le_iff_toNat_le] <;> omega

/-- No character takes more than three bytes behind its lead byte. -/
theorem length_le_of_completes (h : Completes lead tail) : tail.length ≤ 3 := by
  obtain ⟨ranges, hranges, htail⟩ := h
  rw [← htail.length_eq]
  revert hranges
  fun_cases trailRanges? lead <;> rintro ⟨⟩ <;> decide

theorem scalarValue_nil : scalarValue lead [] = lead.toNat := rfl

theorem scalarValue_one : scalarValue lead [b] = lead.toNat % 32 * 64 + b.toNat % 64 := rfl

theorem scalarValue_two :
    scalarValue lead [b, b'] = (lead.toNat % 16 * 64 + b.toNat % 64) * 64 + b'.toNat % 64 := rfl

theorem scalarValue_three :
    scalarValue lead [b, b', b''] =
      ((lead.toNat % 8 * 64 + b.toNat % 64) * 64 + b'.toNat % 64) * 64 + b''.toNat % 64 := rfl

theorem toNat_ofNat_of_valid {n : Nat} (h : n < 0xD800 ∨ 0xDFFF < n ∧ n < 0x110000) :
    (Char.ofNat n).toNat = n := by
  rw [Char.ofNat, dif_pos h]
  rfl

theorem toNat_ofNat_byte {n : Nat} (h : n < 256) : (UInt8.ofNat n).toNat = n :=
  UInt8.toNat_ofNat_of_lt' h

theorem ofNat_eq_iff {n : Nat} (h : n < 256) : UInt8.ofNat n = b ↔ n = b.toNat := by
  rw [← UInt8.toNat_inj, toNat_ofNat_byte h]

theorem utf8EncodeChar_of_completes (h : Completes lead tail) :
    String.utf8EncodeChar (Char.ofNat (scalarValue lead tail)) = lead :: tail := by
  have hlength := length_le_of_completes h
  match tail, h, hlength with
  | [], h, _ =>
    rw [completes_nil_iff] at h
    have hnat := toNat_ofNat_of_valid (n := scalarValue lead []) (by rw [scalarValue_nil]; omega)
    rw [utf8EncodeChar_one (by rw [hnat, scalarValue_nil]; omega), hnat, scalarValue_nil,
      UInt8.ofNat_toNat]
  | [b], h, _ =>
    rw [completes_one_iff] at h
    have hnat := toNat_ofNat_of_valid (n := scalarValue lead [b]) (by rw [scalarValue_one]; omega)
    rw [scalarValue_one] at hnat ⊢
    rw [utf8EncodeChar_two (by omega) (by omega), hnat]
    simp only [List.cons.injEq, and_true]
    refine ⟨(ofNat_eq_iff ?_).mpr ?_, (ofNat_eq_iff ?_).mpr ?_⟩ <;> omega
  | [b, b'], h, _ =>
    rw [completes_two_iff] at h
    have hnat := toNat_ofNat_of_valid (n := scalarValue lead [b, b'])
      (by rw [scalarValue_two]; omega)
    rw [scalarValue_two] at hnat ⊢
    rw [utf8EncodeChar_three (by omega) (by omega), hnat]
    simp only [List.cons.injEq, and_true]
    refine ⟨(ofNat_eq_iff ?_).mpr ?_, (ofNat_eq_iff ?_).mpr ?_, (ofNat_eq_iff ?_).mpr ?_⟩ <;> omega
  | [b, b', b''], h, _ =>
    rw [completes_three_iff] at h
    have hnat := toNat_ofNat_of_valid (n := scalarValue lead [b, b', b''])
      (by rw [scalarValue_three]; omega)
    rw [scalarValue_three] at hnat ⊢
    rw [utf8EncodeChar_four (by omega), hnat]
    simp only [List.cons.injEq, and_true]
    refine ⟨(ofNat_eq_iff ?_).mpr ?_, (ofNat_eq_iff ?_).mpr ?_, (ofNat_eq_iff ?_).mpr ?_,
      (ofNat_eq_iff ?_).mpr ?_⟩ <;> omega

theorem utf8EncodeChar_append_inj {c' : Char} {rest rest' : List UInt8}
    (h : String.utf8EncodeChar c ++ rest = String.utf8EncodeChar c' ++ rest') :
    c = c' ∧ rest = rest' := by
  have hc : c = c' := by
    have hread := ByteArray.utf8DecodeChar?_utf8EncodeChar_append (b := rest.toByteArray) (c := c)
    rw [← List.toByteArray_append, h, List.toByteArray_append,
      ByteArray.utf8DecodeChar?_utf8EncodeChar_append] at hread
    exact (Option.some.inj hread).symm
  subst hc
  exact ⟨rfl, List.append_cancel_left h⟩

theorem completes_of_utf8EncodeChar (h : String.utf8EncodeChar c = lead :: tail) :
    Completes lead tail := by
  have hvalid : c.toNat < 0xD800 ∨ 0xDFFF < c.toNat ∧ c.toNat < 0x110000 := c.valid
  by_cases h1 : c.toNat < 0x80
  · rw [utf8EncodeChar_one h1] at h
    obtain ⟨rfl, rfl⟩ := List.cons.inj h
    rw [completes_nil_iff, toNat_ofNat_byte (by omega)]
    exact h1
  by_cases h2 : c.toNat < 0x800
  · rw [utf8EncodeChar_two (by omega) h2] at h
    obtain ⟨rfl, rfl⟩ := List.cons.inj h
    simp (disch := omega) only [completes_one_iff, toNat_ofNat_byte]
    omega
  by_cases h3 : c.toNat < 0x10000
  · rw [utf8EncodeChar_three (by omega) h3] at h
    obtain ⟨rfl, rfl⟩ := List.cons.inj h
    simp (disch := omega) only [completes_two_iff, toNat_ofNat_byte]
    omega
  · rw [utf8EncodeChar_four (by omega)] at h
    obtain ⟨rfl, rfl⟩ := List.cons.inj h
    simp (disch := omega) only [completes_three_iff, toNat_ofNat_byte]
    omega

/-- A lead byte and the bytes behind it encode a character exactly if these complete it, and the
character is the one whose number they carry. -/
theorem utf8EncodeChar_eq_cons_iff :
    String.utf8EncodeChar c = lead :: tail ↔
      Completes lead tail ∧ c = Char.ofNat (scalarValue lead tail) := by
  constructor
  · intro h
    have hcompletes := completes_of_utf8EncodeChar h
    refine ⟨hcompletes, ?_⟩
    have hsame : String.utf8EncodeChar c ++ [] =
        String.utf8EncodeChar (Char.ofNat (scalarValue lead tail)) ++ [] := by
      rw [h, utf8EncodeChar_of_completes hcompletes]
    exact (utf8EncodeChar_append_inj hsame).1
  · rintro ⟨hcompletes, rfl⟩
    exact utf8EncodeChar_of_completes hcompletes

end Completes

section Bytes

variable {b : UInt8}

theorem exists_utf8EncodeChar_eq_cons (c : Char) :
    ∃ lead tail, String.utf8EncodeChar c = lead :: tail :=
  List.exists_cons_of_ne_nil String.utf8EncodeChar_ne_nil

/-- The first byte of a character begins characters. -/
theorem isUTF8FirstByte_of_utf8EncodeChar (h : String.utf8EncodeChar c = lead :: tail) :
    lead.IsUTF8FirstByte := by
  have hfirst := UInt8.isUTF8FirstByte_getElem_zero_utf8EncodeChar (c := c)
  simpa only [h, List.getElem_cons_zero] using hfirst

/-- No other byte of a character begins one. -/
theorem not_isUTF8FirstByte_of_mem_tail (h : String.utf8EncodeChar c = lead :: tail)
    (hb : b ∈ tail) : ¬ b.IsUTF8FirstByte := by
  obtain ⟨i, hi, rfl⟩ := List.getElem_of_mem hb
  have hlength : i + 1 < (String.utf8EncodeChar c).length := by simpa [h] using hi
  have hlater := @UInt8.isUTF8FirstByte_getElem_utf8EncodeChar c (i + 1) hlength
  simpa [h] using hlater

theorem toNat_ofUInt8 (b : UInt8) : (Char.ofUInt8 b).toNat = b.toNat :=
  b.toNat_toUInt32

theorem utf8EncodeChar_ofUInt8 (h : b.toNat < 0x80) :
    String.utf8EncodeChar (Char.ofUInt8 b) = [b] := by
  rw [utf8EncodeChar_one (by rw [toNat_ofUInt8]; exact h), toNat_ofUInt8, UInt8.ofNat_toNat]

/-- The bytes of a character beyond ASCII are beyond ASCII themselves. -/
theorem le_of_mem_utf8EncodeChar (h : 0x80 ≤ c.toNat) (hb : b ∈ String.utf8EncodeChar c) :
    0x80 ≤ b.toNat := by
  obtain ⟨lead, tail, hc⟩ := exists_utf8EncodeChar_eq_cons c
  obtain ⟨hcompletes, hvalue⟩ := utf8EncodeChar_eq_cons_iff.mp hc
  rw [hc] at hb
  have hlength := length_le_of_completes hcompletes
  match tail, hcompletes, hlength with
  | [], hcompletes, _ =>
    rw [completes_nil_iff] at hcompletes
    rw [hvalue, toNat_ofNat_of_valid (by rw [scalarValue_nil]; omega), scalarValue_nil] at h
    omega
  | [b₁], hcompletes, _ =>
    rw [completes_one_iff] at hcompletes
    simp only [List.mem_cons, List.not_mem_nil, or_false] at hb
    rcases hb with rfl | rfl <;> omega
  | [b₁, b₂], hcompletes, _ =>
    rw [completes_two_iff] at hcompletes
    simp only [List.mem_cons, List.not_mem_nil, or_false] at hb
    rcases hb with rfl | rfl | rfl <;> omega
  | [b₁, b₂, b₃], hcompletes, _ =>
    rw [completes_three_iff] at hcompletes
    simp only [List.mem_cons, List.not_mem_nil, or_false] at hb
    rcases hb with rfl | rfl | rfl | rfl <;> omega

/-- An ASCII byte is part of one character only, which it encodes alone. -/
theorem mem_utf8EncodeChar_iff (h : b.toNat < 0x80) :
    b ∈ String.utf8EncodeChar c ↔ c = Char.ofUInt8 b := by
  constructor
  · intro hb
    have hascii : c.toNat < 0x80 := by
      by_contra hwide
      exact absurd (le_of_mem_utf8EncodeChar (Nat.le_of_not_lt hwide) hb) (Nat.not_le_of_lt h)
    rw [utf8EncodeChar_one hascii, List.mem_singleton] at hb
    rw [← Char.toNat_inj, toNat_ofUInt8, hb, toNat_ofNat_byte (by omega)]
  · rintro rfl
    rw [utf8EncodeChar_ofUInt8 h]
    exact List.mem_singleton_self b

end Bytes

section Encode

@[simp] theorem encode_nil : encode [] = [] := rfl

@[simp] theorem encode_cons (c : Char) (cs : List Char) :
    encode (c :: cs) = String.utf8EncodeChar c ++ encode cs := rfl

@[simp] theorem encode_append (cs cs' : List Char) : encode (cs ++ cs') = encode cs ++ encode cs' :=
  List.flatMap_append

theorem encode_eq_nil_iff {cs : List Char} : encode cs = [] ↔ cs = [] := by
  cases cs with
  | nil => simp
  | cons c cs => simp [String.utf8EncodeChar_ne_nil]

theorem length_le_length_encode (cs : List Char) : cs.length ≤ (encode cs).length := by
  induction cs with
  | nil => exact Nat.le_refl _
  | cons c cs ih =>
    have hpos := c.utf8Size_pos
    rw [encode_cons, List.length_append, List.length_cons, String.length_utf8EncodeChar]
    omega

/-- An ASCII text has one byte for each character. -/
theorem length_encode_of_ascii {cs : List Char} (h : ∀ c ∈ cs, c.toNat < 0x80) :
    (encode cs).length = cs.length := by
  induction cs with
  | nil => rfl
  | cons c cs ih =>
    obtain ⟨hc, hcs⟩ := List.forall_mem_cons.mp h
    rw [encode_cons, utf8EncodeChar_one hc, List.length_append, ih hcs, List.length_singleton,
      List.length_cons, Nat.add_comm]

theorem encode_eq_append_iff {cs : List Char} {bytes : List UInt8} :
    encode cs = String.utf8EncodeChar c ++ bytes ↔ ∃ cs', cs = c :: cs' ∧ bytes = encode cs' := by
  constructor
  · intro h
    cases cs with
    | nil => exact absurd (List.append_eq_nil_iff.mp h.symm).1 String.utf8EncodeChar_ne_nil
    | cons c' cs =>
      obtain ⟨rfl, rfl⟩ := utf8EncodeChar_append_inj h
      exact ⟨cs, rfl, rfl⟩
  · rintro ⟨cs', rfl, rfl⟩
    rfl

theorem isUTF8FirstByte_of_mem_encode {cs : List Char} {b : UInt8}
    (hascii : ∀ c ∈ cs, c.toNat < 0x80) (hb : b ∈ encode cs) : b.IsUTF8FirstByte := by
  obtain ⟨c, hc, hbc⟩ := List.mem_flatMap.mp hb
  have hbytes := utf8EncodeChar_one (hascii c hc)
  rw [hbytes, List.mem_singleton] at hbc
  exact isUTF8FirstByte_of_utf8EncodeChar (hbc ▸ hbytes)

/-- What is behind a cut through encoded characters is the rest of the character that is cut, if one
is, and the characters behind it. -/
theorem exists_boundary {cs : List Char} {piece rest : List UInt8} (h : encode cs = piece ++ rest) :
    ∃ left right tail, cs = left ++ right ∧ rest = tail ++ encode right ∧
      ∀ b ∈ tail, ¬ b.IsUTF8FirstByte := by
  induction cs generalizing piece with
  | nil =>
    obtain ⟨rfl, rfl⟩ := List.append_eq_nil_iff.mp h.symm
    exact ⟨[], [], [], rfl, rfl, nofun⟩
  | cons c cs ih =>
    rw [encode_cons] at h
    rcases List.append_eq_append_iff.mp h with ⟨piece', -, hcs⟩ | ⟨tail, hc, rfl⟩
    · obtain ⟨left, right, tail, rfl, hrest, htail⟩ := ih hcs
      exact ⟨c :: left, right, tail, rfl, hrest, htail⟩
    · cases piece with
      | nil => exact ⟨[], c :: cs, [], rfl, by rw [encode_cons, hc]; rfl, nofun⟩
      | cons lead piece =>
        exact ⟨[c], cs, tail, rfl, rfl, fun b hb =>
          not_isUTF8FirstByte_of_mem_tail hc (List.mem_append_right piece hb)⟩

end Encode

end StarMatch.Text.Utf8
