import StarMatch.Proofs.Pattern.Spelling
import StarMatch.Proofs.Pattern.Tokens

/-!
# Matches of characters and of their bytes

Spelled by bytes, a wildcard stands for one byte, so a cut of the bytes of a text may run through a
character. Where every wildcard is repeated, the bytes left over from such a character are taken by
the wildcard behind the cut, if by any, and it need not take them, so the cut can be moved to the end
of the character. If no text has a character of several bytes, there is none to run through.
-/

namespace StarMatch

open Text

/-- A literal that the atom repeats is ASCII. -/
def Atom.RepeatsAscii (a : Atom Char) : Prop :=
  a.repeated = true → ∀ c, a.token = .lit c → c.toNat < 0x80

/-- The atom is no wildcard, unless it is repeated. -/
def Atom.RepeatsWildcard (a : Atom Char) : Prop :=
  a.token = .any → a.repeated = true

section Agreement

variable {token : Token Char} {tokens : List (Token Char)} {c : Char} {text : List Char}
  {left bytes : List UInt8}

theorem eq_nil_of_later {b : UInt8} {rest : List UInt8} (hleft : ∀ b ∈ left, ¬ b.IsUTF8FirstByte)
    (hb : b.IsUTF8FirstByte) (h : left ++ bytes = b :: rest) : left = [] := by
  cases left with
  | nil => rfl
  | cons b' left =>
    obtain ⟨rfl, -⟩ := List.cons.inj h
    exact absurd hb (hleft b' List.mem_cons_self)

/-- Bytes left over from a character that is cut belong to no literal, so a wildcard takes them, and
if it is repeated, it need not. -/
theorem cutAlong_of_later {offset : Nat}
    (hrepeats : ∀ a ∈ Atom.ofTokensFrom offset tokens, a.RepeatsAscii)
    (hwildcard : ∀ a ∈ Atom.ofTokensFrom offset tokens, a.RepeatsWildcard)
    (hleft : ∀ b ∈ left, ¬ b.IsUTF8FirstByte) (h : CutAlong (spell tokens) (left ++ bytes)) :
    CutAlong (spell tokens) bytes := by
  induction tokens using tokens_induction generalizing offset left with
  | nil =>
    rw [spell_nil, cutAlong_nil_iff] at h ⊢
    exact (List.append_eq_nil_iff.mp h).2
  | single token tokens hhead ih =>
    rw [Atom.ofTokensFrom_cons_of_not_star _ token hhead, List.forall_mem_cons]
      at hrepeats hwildcard
    cases token with
    | lit c =>
      obtain ⟨rest, hbytes, -⟩ := (cutAlong_map_lit_append_iff (head_spell hhead)).mp h
      obtain ⟨lead, tail, hc⟩ := Utf8.exists_utf8EncodeChar_eq_cons c
      rw [hc, List.cons_append] at hbytes
      rwa [eq_nil_of_later hleft (Utf8.isUTF8FirstByte_of_utf8EncodeChar hc) hbytes,
        List.nil_append] at h
    | any => cases hwildcard.1 rfl
    | star => exact absurd h (not_cutAlong_star (head_spell hhead))
  | repeated token tokens ih =>
    rw [Atom.ofTokensFrom_cons_star, List.forall_mem_cons] at hrepeats hwildcard
    have hskip : CutAlong (spell tokens) (left ++ bytes) → CutAlong (spell tokens) bytes :=
      ih hrepeats.2 hwildcard.2 hleft
    cases token with
    | lit c =>
      have hascii : c.toNat < 0x80 := hrepeats.1 rfl c rfl
      rw [spell_cons, spelled_lit_of_ascii hascii] at h ⊢
      rcases cutAlong_lit_star_cons_iff.mp h with hrest | ⟨rest, hbytes, -⟩
      · exact cutAlong_lit_star_cons_iff.mpr (.inl (hskip hrest))
      · have hfirst := Utf8.isUTF8FirstByte_of_utf8EncodeChar (Utf8.utf8EncodeChar_one hascii)
        rwa [eq_nil_of_later hleft hfirst hbytes, List.nil_append] at h
    | any =>
      obtain ⟨piece, rest, hbytes, -, hrest⟩ := cutAlong_repeated_iff.mp h
      refine cutAlong_repeated_iff.mpr ?_
      rcases List.append_eq_append_iff.mp hbytes with ⟨piece', -, rfl⟩ | ⟨left', rfl, rfl⟩
      · exact ⟨piece', rest, rfl, fun _ _ => rfl, hrest⟩
      · have hleft' : ∀ b ∈ left', ¬ b.IsUTF8FirstByte :=
          fun b hb => hleft b (List.mem_append_right piece hb)
        exact ⟨[], bytes, rfl, nofun, ih hrepeats.2 hwildcard.2 hleft' hrest⟩
    | star => exact cutAlong_star_star_iff.mpr (hskip (cutAlong_star_star_iff.mp h))

theorem cutAlong_spell_lit_iff (hhead : tokens.head?.any Token.isStar = false) :
    CutAlong (spell (.lit c :: tokens)) (Utf8.encode text) ↔
      ∃ rest, text = c :: rest ∧ CutAlong (spell tokens) (Utf8.encode rest) := by
  rw [spell_cons, Token.spelled, cutAlong_map_lit_append_iff (head_spell hhead)]
  constructor
  · rintro ⟨bytes, htext, hbytes⟩
    obtain ⟨rest, rfl, rfl⟩ := Utf8.encode_eq_append_iff.mp htext
    exact ⟨rest, rfl, hbytes⟩
  · rintro ⟨rest, rfl, hrest⟩
    exact ⟨Utf8.encode rest, rfl, hrest⟩

theorem cutAlong_spell_lit_star_cons_iff (hascii : c.toNat < 0x80) :
    CutAlong (spell (.lit c :: .star :: tokens)) (Utf8.encode text) ↔
      CutAlong (spell tokens) (Utf8.encode text) ∨
        ∃ rest, text = c :: rest ∧
          CutAlong (spell (.lit c :: .star :: tokens)) (Utf8.encode rest) := by
  rw [spell_cons, spelled_lit_of_ascii hascii]
  refine cutAlong_lit_star_cons_iff.trans (or_congr_right ?_)
  constructor
  · rintro ⟨bytes, htext, hbytes⟩
    obtain ⟨rest, rfl, rfl⟩ :=
      Utf8.encode_eq_append_iff.mp (htext.trans (by rw [Utf8.utf8EncodeChar_one hascii]; rfl))
    exact ⟨rest, rfl, hbytes⟩
  · rintro ⟨rest, rfl, hrest⟩
    exact ⟨Utf8.encode rest, by rw [Utf8.encode_cons, Utf8.utf8EncodeChar_one hascii]; rfl, hrest⟩

/-- Both readings of the tokens match the same of all texts in which the given one ends. -/
def AgreesOn (tokens : List (Token Char)) (text : List Char) : Prop :=
  ∀ rest, rest <:+ text → (CutAlong (spell tokens) (Utf8.encode rest) ↔ CutAlong tokens rest)

namespace AgreesOn

theorem lit (h : AgreesOn tokens text) (hhead : tokens.head?.any Token.isStar = false) (c : Char) :
    AgreesOn (.lit c :: tokens) text := by
  intro rest hsuffix
  rw [cutAlong_spell_lit_iff hhead, cutAlong_lit_iff hhead]
  constructor
  · rintro ⟨rest', rfl, hcut⟩
    exact ⟨rest', rfl, (h rest' ((List.suffix_cons c rest').trans hsuffix)).mp hcut⟩
  · rintro ⟨rest', rfl, hcut⟩
    exact ⟨rest', rfl, (h rest' ((List.suffix_cons c rest').trans hsuffix)).mpr hcut⟩

theorem any (h : AgreesOn tokens text) (hhead : tokens.head?.any Token.isStar = false)
    (hascii : ∀ c ∈ text, c.toNat < 0x80) : AgreesOn (.any :: tokens) text := by
  intro rest hsuffix
  have hspelled : CutAlong (spell (.any :: tokens)) (Utf8.encode rest) ↔ _ :=
    cutAlong_single_iff (head_spell hhead)
  rw [hspelled, cutAlong_single_iff hhead]
  cases rest with
  | nil => simp
  | cons c rest =>
    have hrest := h rest ((List.suffix_cons c rest).trans hsuffix)
    have hc : c.toNat < 0x80 := hascii c (hsuffix.subset List.mem_cons_self)
    rw [Utf8.encode_cons, Utf8.utf8EncodeChar_one hc]
    constructor
    · rintro ⟨b, bytes, hbytes, -, hcut⟩
      obtain ⟨-, rfl⟩ := List.cons.inj hbytes
      exact ⟨c, rest, rfl, rfl, hrest.mp hcut⟩
    · rintro ⟨c', rest', htext, -, hcut⟩
      obtain ⟨-, rfl⟩ := List.cons.inj htext
      exact ⟨_, _, rfl, rfl, hrest.mpr hcut⟩

theorem lit_star (h : AgreesOn tokens text) (hascii : c.toNat < 0x80) :
    AgreesOn (.lit c :: .star :: tokens) text := by
  intro rest hsuffix
  induction rest with
  | nil =>
    rw [cutAlong_spell_lit_star_cons_iff hascii, cutAlong_lit_star_cons_iff, h [] hsuffix]
    simp
  | cons c' rest ih =>
    have hrest := ih ((List.suffix_cons c' rest).trans hsuffix)
    rw [cutAlong_spell_lit_star_cons_iff hascii, cutAlong_lit_star_cons_iff, h _ hsuffix]
    refine or_congr_right ?_
    constructor
    · rintro ⟨rest', htext, hcut⟩
      obtain ⟨-, rfl⟩ := List.cons.inj htext
      exact ⟨rest, htext, hrest.mp hcut⟩
    · rintro ⟨rest', htext, hcut⟩
      obtain ⟨-, rfl⟩ := List.cons.inj htext
      exact ⟨rest, htext, hrest.mpr hcut⟩

/-- A cut behind a repeated wildcard can be moved to the end of the character that it runs through. -/
theorem any_star {offset : Nat} (h : AgreesOn tokens text)
    (hrepeats : ∀ a ∈ Atom.ofTokensFrom offset tokens, a.RepeatsAscii)
    (hwildcard : (∀ a ∈ Atom.ofTokensFrom offset tokens, a.RepeatsWildcard) ∨
      ∀ c ∈ text, c.toNat < 0x80) :
    AgreesOn (.any :: .star :: tokens) text := by
  intro rest hsuffix
  constructor
  · intro hcut
    obtain ⟨piece, bytes, hrest, -, hbytes⟩ := cutAlong_repeated_iff.mp hcut
    obtain ⟨left, right, tail, rfl, rfl, htail⟩ := Utf8.exists_boundary hrest
    have hright : CutAlong (spell tokens) (Utf8.encode right) := by
      rcases hwildcard with hwildcard | hascii
      · exact cutAlong_of_later hrepeats hwildcard htail hbytes
      · cases tail with
        | nil => exact hbytes
        | cons b tail =>
          have hb : b ∈ Utf8.encode (left ++ right) := by simp [hrest]
          have hfirst := Utf8.isUTF8FirstByte_of_mem_encode
            (fun c hc => hascii c (hsuffix.subset hc)) hb
          exact absurd hfirst (htail b List.mem_cons_self)
    have hright' := (h right ((List.suffix_append left right).trans hsuffix)).mp hright
    exact cutAlong_repeated_iff.mpr ⟨left, right, rfl, fun _ _ => rfl, hright'⟩
  · intro hcut
    obtain ⟨piece, rest', rfl, -, hrest'⟩ := cutAlong_repeated_iff.mp hcut
    have hbytes := (h rest' ((List.suffix_append piece rest').trans hsuffix)).mpr hrest'
    exact cutAlong_repeated_iff.mpr
      ⟨Utf8.encode piece, Utf8.encode rest', Utf8.encode_append piece rest', fun _ _ => rfl, hbytes⟩

theorem star_star (h : AgreesOn tokens text) : AgreesOn (.star :: .star :: tokens) text := by
  intro rest hsuffix
  have hspelled : CutAlong (spell (.star :: .star :: tokens)) (Utf8.encode rest) ↔
      CutAlong (spell tokens) (Utf8.encode rest) := cutAlong_star_star_iff
  rw [hspelled, cutAlong_star_star_iff, h rest hsuffix]

end AgreesOn

/-- Both readings of a pattern match the same texts if only ASCII literals are repeated and no
character of the text can be cut by a wildcard that takes exactly one byte. -/
theorem agreesOn {offset : Nat} (hrepeats : ∀ a ∈ Atom.ofTokensFrom offset tokens, a.RepeatsAscii)
    (hwildcard : (∀ a ∈ Atom.ofTokensFrom offset tokens, a.RepeatsWildcard) ∨
      ∀ c ∈ text, c.toNat < 0x80) :
    AgreesOn tokens text := by
  induction tokens using tokens_induction generalizing offset with
  | nil =>
    intro rest _
    rw [spell_nil, cutAlong_nil_iff, cutAlong_nil_iff, Utf8.encode_eq_nil_iff]
  | single token tokens hhead ih =>
    rw [Atom.ofTokensFrom_cons_of_not_star _ token hhead] at hrepeats hwildcard
    simp only [List.forall_mem_cons] at hrepeats hwildcard
    have hrest := ih hrepeats.2 (hwildcard.imp_left And.right)
    cases token with
    | lit c => exact hrest.lit hhead c
    | any =>
      rcases hwildcard with hwildcard | hascii
      · cases hwildcard.1 rfl
      · exact hrest.any hhead hascii
    | star =>
      intro rest _
      exact iff_of_false (not_cutAlong_star (head_spell hhead)) (not_cutAlong_star hhead)
  | repeated token tokens ih =>
    rw [Atom.ofTokensFrom_cons_star] at hrepeats hwildcard
    simp only [List.forall_mem_cons] at hrepeats hwildcard
    have hrest := ih hrepeats.2 (hwildcard.imp_left And.right)
    cases token with
    | lit c => exact hrest.lit_star (hrepeats.1 rfl c rfl)
    | any => exact hrest.any_star hrepeats.2 (hwildcard.imp_left And.right)
    | star => exact hrest.star_star

theorem Pattern.matches_encode_iff {p : Pattern Char} {q : Pattern UInt8}
    (hspelled : q.tokens = spell p.tokens) (hrepeats : ∀ a ∈ p.atoms, a.RepeatsAscii)
    (hwildcard : (∀ a ∈ p.atoms, a.RepeatsWildcard) ∨ ∀ c ∈ text, c.toNat < 0x80) :
    q.Matches (Utf8.encode text) ↔ p.Matches text := by
  rw [Pattern.Matches, Pattern.atoms, hspelled]
  exact agreesOn hrepeats hwildcard text (List.suffix_refl text)

end Agreement

end StarMatch
