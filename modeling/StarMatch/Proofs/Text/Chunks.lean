import StarMatch.Proofs.Text.Utf8

/-!
# Chunks

Cutting a list of bytes into chunks loses none of them, and a list of encoded characters is cut into
these characters.
-/

namespace StarMatch.Text.Utf8

/-- The bytes that a chunk was cut from. -/
def Chunk.bytes : Chunk → List UInt8
  | .scalar c => String.utf8EncodeChar c
  | .illFormed bytes => bytes

section Trail

variable {ranges : List (UInt8 × UInt8)} {bytes tail : List UInt8} {lead : UInt8}

theorem takeWithin_append_drop (ranges : List (UInt8 × UInt8)) (bytes : List UInt8) :
    takeWithin ranges bytes ++ bytes.drop (takeWithin ranges bytes).length = bytes := by
  fun_induction takeWithin ranges bytes with
  | case1 low high ranges b bytes hb ih => simpa using ih
  | case2 => rfl
  | case3 => rfl

/-- What is taken lies in the ranges if there is a byte for each of them. -/
theorem forall₂_takeWithin (h : (takeWithin ranges bytes).length = ranges.length) :
    List.Forall₂ (fun range b => range.1 ≤ b ∧ b ≤ range.2) ranges (takeWithin ranges bytes) := by
  fun_induction takeWithin ranges bytes with
  | case1 low high ranges b bytes hb ih => exact .cons hb (ih (by simpa using h))
  | case2 => simp at h
  | case3 ranges bytes hnone =>
    obtain rfl : ranges = [] := List.length_eq_zero_iff.mp h.symm
    exact .nil

/-- Bytes that lie in the ranges are taken, whatever is behind them. -/
theorem takeWithin_of_forall₂
    (h : List.Forall₂ (fun range b => range.1 ≤ b ∧ b ≤ range.2) ranges tail)
    (rest : List UInt8) : takeWithin ranges (tail ++ rest) = tail := by
  induction h with
  | nil => rfl
  | cons hb _ ih => rw [List.cons_append, takeWithin, if_pos hb, ih]

/-- A byte that no range allows ends what is taken. -/
theorem takeWithin_append {rest : List UInt8}
    (h : ∀ b ∈ rest.head?, ∀ range ∈ ranges, ¬ (range.1 ≤ b ∧ b ≤ range.2)) :
    takeWithin ranges (bytes ++ rest) = takeWithin ranges bytes := by
  fun_induction takeWithin ranges bytes with
  | case1 low high ranges b bytes hb ih =>
    have hrest := ih fun b' hb' range hrange => h b' hb' range (List.mem_cons_of_mem _ hrange)
    rw [List.cons_append, takeWithin, if_pos hb, hrest]
  | case2 low high ranges b bytes hb => rw [List.cons_append, takeWithin, if_neg hb]
  | case3 ranges bytes hnone =>
    match ranges, bytes, rest with
    | [], _, _ => rfl
    | _ :: _, [], [] => rfl
    | range :: _, [], b :: _ => exact if_neg (h b rfl range List.mem_cons_self)
    | (low, high) :: ranges, b :: bytes, _ => exact (hnone low high ranges b bytes rfl rfl).elim

theorem trail_append_drop (lead : UInt8) (rest : List UInt8) :
    trail lead rest ++ rest.drop (trail lead rest).length = rest :=
  takeWithin_append_drop _ rest

theorem trail_of_completes (h : Completes lead tail) (rest : List UInt8) :
    trail lead (tail ++ rest) = tail := by
  obtain ⟨ranges, hranges, htail⟩ := h
  rw [trail, hranges, Option.getD_some]
  exact takeWithin_of_forall₂ htail rest

theorem ofTrail_of_completes (h : Completes lead tail) :
    Chunk.ofTrail lead tail = .scalar (Char.ofNat (scalarValue lead tail)) := by
  obtain ⟨ranges, hranges, htail⟩ := h
  rw [Chunk.ofTrail, hranges, Option.any_some, htail.length_eq, if_pos (beq_self_eq_true _)]

/-- A chunk is made of a lead byte and the bytes that belong to it. -/
theorem bytes_ofTrail (lead : UInt8) (rest : List UInt8) :
    (Chunk.ofTrail lead (trail lead rest)).bytes = lead :: trail lead rest := by
  rw [Chunk.ofTrail]
  split
  · next hlength =>
    obtain ⟨ranges, hranges, hlength⟩ := (Option.any_eq_true _ _).mp hlength
    have htrail : trail lead rest = takeWithin ranges rest := by
      rw [trail, hranges, Option.getD_some]
    rw [beq_iff_eq, htrail] at hlength
    have hcompletes : Completes lead (trail lead rest) :=
      ⟨ranges, hranges, htrail ▸ forall₂_takeWithin hlength.symm⟩
    exact utf8EncodeChar_of_completes hcompletes
  · rfl

end Trail

/-- No byte is lost by cutting a list of bytes into chunks. -/
theorem flatMap_bytes_chunks (bytes : List UInt8) : (chunks bytes).flatMap Chunk.bytes = bytes := by
  fun_induction chunks bytes with
  | case1 => rfl
  | case2 lead rest ih =>
    rw [List.flatMap_cons, bytes_ofTrail, ih, List.cons_append, trail_append_drop]

/-- An encoded character in front is a chunk of its own. -/
theorem chunks_utf8EncodeChar_append (c : Char) (rest : List UInt8) :
    chunks (String.utf8EncodeChar c ++ rest) = .scalar c :: chunks rest := by
  obtain ⟨lead, tail, hc⟩ := exists_utf8EncodeChar_eq_cons c
  obtain ⟨hcompletes, hvalue⟩ := utf8EncodeChar_eq_cons_iff.mp hc
  rw [hc, List.cons_append, chunks, trail_of_completes hcompletes, ofTrail_of_completes hcompletes,
    ← hvalue, List.drop_left]

theorem chunks_encode (cs : List Char) : chunks (encode cs) = cs.map .scalar := by
  induction cs with
  | nil => rw [encode_nil, chunks, List.map_nil]
  | cons c cs ih => rw [encode_cons, chunks_utf8EncodeChar_append, ih, List.map_cons]

/-- A lead byte is no byte that can belong to a lead byte in front of it. -/
theorem not_within_of_completes {lead lead' : UInt8} {tail : List UInt8}
    (h : Completes lead' tail) :
    ∀ range ∈ (trailRanges? lead).getD [], ¬ (range.1 ≤ lead' ∧ lead' ≤ range.2) := by
  have hwithin : ∀ range ∈ (trailRanges? lead).getD [], 0x80 ≤ range.1 ∧ range.2 ≤ 0xBF := by
    fun_cases trailRanges? lead <;> simp
  have houtside : lead' < 0x80 ∨ 0xBF < lead' := by
    obtain ⟨ranges, hranges, -⟩ := h
    by_contra hlater
    rw [not_or, UInt8.not_lt, UInt8.not_lt] at hlater
    rw [trailRanges?, if_neg (UInt8.not_lt.mpr hlater.1),
      if_pos (UInt8.lt_of_le_of_lt hlater.2 (by decide))] at hranges
    cases hranges
  intro range hrange hbetween
  obtain ⟨hlow, hhigh⟩ := hwithin range hrange
  rcases houtside with hbelow | habove
  · exact absurd (UInt8.le_trans hlow hbetween.1) (UInt8.not_le.mpr hbelow)
  · exact absurd (UInt8.le_trans hbetween.2 hhigh) (UInt8.not_le.mpr habove)

/-- Encoded characters are cut apart from the bytes in front of them, whatever these are. -/
theorem chunks_append_encode (bytes : List UInt8) (cs : List Char) :
    chunks (bytes ++ encode cs) = chunks bytes ++ chunks (encode cs) := by
  have hhead : ∀ lead, ∀ b ∈ (encode cs).head?, ∀ range ∈ (trailRanges? lead).getD [],
      ¬ (range.1 ≤ b ∧ b ≤ range.2) := by
    intro lead b hb
    cases cs with
    | nil => cases hb
    | cons c cs =>
      obtain ⟨lead', tail, hc⟩ := exists_utf8EncodeChar_eq_cons c
      rw [encode_cons, hc] at hb
      obtain rfl := Option.some.inj hb
      exact not_within_of_completes (completes_of_utf8EncodeChar hc)
  fun_induction chunks bytes with
  | case1 => rfl
  | case2 lead rest ih =>
    have htrail : trail lead (rest ++ encode cs) = trail lead rest := takeWithin_append (hhead lead)
    have hlength := congrArg List.length (trail_append_drop lead rest)
    rw [List.length_append] at hlength
    rw [List.cons_append, chunks, htrail,
      List.drop_append_of_le_length (hlength ▸ Nat.le_add_right _ _), ih, List.cons_append]

/-- What is encoded is decoded. -/
theorem decode?_encode (cs : List Char) : decode? (encode cs) = some cs := by
  rw [decode?, chunks_encode]
  induction cs with
  | nil => rfl
  | cons c cs ih =>
    rw [List.map_cons, List.mapM_cons, ih]
    rfl

end StarMatch.Text.Utf8
