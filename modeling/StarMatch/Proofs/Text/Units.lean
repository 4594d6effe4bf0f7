import Mathlib.Tactic.TFAE
import StarMatch.Proofs.Search.Checks
import StarMatch.Proofs.Text.Escape

/-!
# The units of an escaped text

From the left, a text is taken up in units: a byte, or a backslash together with the byte behind it or
with an x and two hexadecimal digits. Some of the units that begin with a backslash are escapes, which
are resolved to one byte each, and all others are kept. So resolving escapes makes a text shorter if it
meets any, and leaves it as it is otherwise. The same is worked out by a reader that goes through the
text by places: it never looks at a place outside of the text, and it is done after at most as many
rounds as there are bytes.
-/

namespace StarMatch.Text

/-- What is taken up at once. -/
inductive TextUnit where
  | single (b : UInt8)
  /-- A backslash and the byte behind it. -/
  | pair (letter : UInt8)
  /-- A backslash, an x and two hexadecimal digits. -/
  | digits (high low : UInt8)
  deriving DecidableEq, Repr

namespace TextUnit

/-- The bytes that make up the unit. -/
def bytes : TextUnit → List UInt8
  | single b => [b]
  | pair letter => [0x5C, letter]
  | digits high low => [0x5C, 0x78, high, low]

/-- The byte that the unit stands for if it is an escape. -/
def value? : TextUnit → Option UInt8
  | single _ => none
  | pair letter => escapedLetter? letter
  | digits high low => hexPair? high low

/-- What becomes of the unit. -/
def resolved (u : TextUnit) : List UInt8 :=
  match u.value? with
  | some value => [value]
  | none => u.bytes

/-- The unit that is taken up first from a text, and the rest of the text behind it. -/
inductive Leads : TextUnit → List UInt8 → List UInt8 → Prop where
  | single {b : UInt8} (h : b ≠ 0x5C) (rest : List UInt8) : Leads (.single b) (b :: rest) rest
  /-- A backslash at the end of the text has no byte behind it. -/
  | last : Leads (.single 0x5C) [0x5C] []
  | digits {high low : UInt8} (h : (hexPair? high low).isSome) (rest : List UInt8) :
    Leads (.digits high low) (0x5C :: 0x78 :: high :: low :: rest) rest
  | pair {letter : UInt8} {rest : List UInt8}
    (h : letter = 0x78 →
      ∀ high low rest', rest = high :: low :: rest' → hexPair? high low = none) :
    Leads (.pair letter) (0x5C :: letter :: rest) rest

end TextUnit

/-- The units that are taken up from a text, from left to right. -/
inductive IsUnits : List UInt8 → List TextUnit → Prop where
  | nil : IsUnits [] []
  | cons {u : TextUnit} {text rest : List UInt8} {units : List TextUnit}
    (h : u.Leads text rest) (hrest : IsUnits rest units) : IsUnits text (u :: units)

variable {u u' : TextUnit} {text rest rest' : List UInt8} {units units' : List TextUnit}

namespace TextUnit

theorem resolved_eq_bytes (h : u.value? = none) : u.resolved = u.bytes := by
  rw [resolved, h]

/-- An escape is longer than what it stands for. -/
theorem length_resolved_lt (h : u.value? ≠ none) : u.resolved.length < u.bytes.length := by
  obtain ⟨value, hvalue⟩ := Option.ne_none_iff_exists'.mp h
  rw [resolved, hvalue]
  cases u with
  | single b => cases hvalue
  | pair letter => simp [bytes]
  | digits high low => simp [bytes]

theorem length_resolved_le (u : TextUnit) : u.resolved.length ≤ u.bytes.length := by
  by_cases h : u.value? = none
  · exact Nat.le_of_eq (congrArg List.length (resolved_eq_bytes h))
  · exact Nat.le_of_lt (length_resolved_lt h)

namespace Leads

theorem eq_append (h : u.Leads text rest) : text = u.bytes ++ rest := by
  cases h <;> rfl

theorem ne_nil (h : u.Leads text rest) : text ≠ [] := by
  cases h <;> exact List.cons_ne_nil _ _

theorem bytes_ne_nil (h : u.Leads text rest) : u.bytes ≠ [] := by
  cases h <;> exact List.cons_ne_nil _ _

theorem length_rest_lt (h : u.Leads text rest) : rest.length < text.length := by
  rw [h.eq_append, List.length_append]
  exact Nat.lt_add_of_pos_left (List.length_pos_of_ne_nil h.bytes_ne_nil)

/-- What is resolved from a text is what becomes of its first unit, and then of the rest. -/
theorem unescape_eq (h : u.Leads text rest) : unescape text = u.resolved ++ unescape rest := by
  cases h with
  | single h rest => exact unescape_cons_of_ne h rest
  | last => rfl
  | digits h rest =>
    obtain ⟨value, hvalue⟩ := Option.isSome_iff_exists.mp h
    rw [unescape_hexPair hvalue, resolved, value?, hvalue]
    rfl
  | @pair letter rest h =>
    by_cases hdigits : letter = 0x78
    · subst hdigits
      exact unescape_of_no_digits (h rfl)
    · rw [resolved, value?]
      cases hvalue : escapedLetter? letter with
      | none => exact unescape_of_no_letter hdigits hvalue
      | some value => exact unescape_letter hvalue rest

end Leads

/-- Every text that is not empty begins with a unit. -/
theorem exists_leads (h : text ≠ []) : ∃ u rest, Leads u text rest := by
  obtain ⟨b, tail, rfl⟩ := List.exists_cons_of_ne_nil h
  by_cases hb : b = 0x5C
  · subst hb
    match tail with
    | [] => exact ⟨_, _, .last⟩
    | letter :: rest =>
      by_cases hdigits : ∃ high low rest', letter = 0x78 ∧ rest = high :: low :: rest' ∧
          (hexPair? high low).isSome
      · obtain ⟨high, low, rest', rfl, rfl, hvalue⟩ := hdigits
        exact ⟨_, _, .digits hvalue rest'⟩
      · refine ⟨_, _, .pair fun hletter high low rest' hrest => ?_⟩
        by_contra hvalue
        exact hdigits ⟨high, low, rest', hletter, hrest, Option.isSome_iff_ne_none.mpr hvalue⟩
  · exact ⟨_, _, .single hb tail⟩

theorem Leads.unique (h : u.Leads text rest) (h' : u'.Leads text rest') : u = u' ∧ rest = rest' := by
  cases h <;> cases h' <;> simp_all

end TextUnit

/-- Every text is taken up in units. -/
theorem exists_isUnits (text : List UInt8) : ∃ units, IsUnits text units := by
  induction hlength : text.length using Nat.strongRecOn generalizing text with
  | _ length ih =>
    by_cases hne : text = []
    · exact ⟨[], hne ▸ .nil⟩
    · obtain ⟨u, rest, hleads⟩ := TextUnit.exists_leads hne
      obtain ⟨units, hunits⟩ := ih rest.length (hlength ▸ hleads.length_rest_lt) rest rfl
      exact ⟨u :: units, .cons hleads hunits⟩

namespace IsUnits

/-- There is only one way in which a text is taken up. -/
theorem unique (h : IsUnits text units) (h' : IsUnits text units') : units = units' := by
  induction h generalizing units' with
  | nil =>
    cases h' with
    | nil => rfl
    | cons hleads _ => exact absurd rfl hleads.ne_nil
  | cons hleads _ ih =>
    cases h' with
    | nil => exact absurd rfl hleads.ne_nil
    | cons hleads' hrest' =>
      obtain ⟨rfl, rfl⟩ := hleads.unique hleads'
      rw [ih hrest']

/-- No byte is lost. -/
theorem flatMap_bytes (h : IsUnits text units) : units.flatMap TextUnit.bytes = text := by
  induction h with
  | nil => rfl
  | cons hleads _ ih => rw [List.flatMap_cons, ih, hleads.eq_append]

/-- Resolving the escapes of a text resolves its units one by one. -/
theorem flatMap_resolved (h : IsUnits text units) :
    units.flatMap TextUnit.resolved = unescape text := by
  induction h with
  | nil => rfl
  | cons hleads _ ih => rw [List.flatMap_cons, ih, hleads.unescape_eq]

end IsUnits

theorem length_flatMap_resolved_le (units : List TextUnit) :
    (units.flatMap TextUnit.resolved).length ≤ (units.flatMap TextUnit.bytes).length := by
  induction units with
  | nil => exact Nat.le_refl _
  | cons u units ih =>
    rw [List.flatMap_cons, List.flatMap_cons, List.length_append, List.length_append]
    exact Nat.add_le_add u.length_resolved_le ih

/-- Units that are resolved to as many bytes as they had are not escapes. -/
theorem forall_value?_eq_none_of_length_eq
    (h : (units.flatMap TextUnit.resolved).length = (units.flatMap TextUnit.bytes).length) :
    ∀ u ∈ units, u.value? = none := by
  induction units with
  | nil => exact fun _ hu => absurd hu List.not_mem_nil
  | cons u units ih =>
    rw [List.flatMap_cons, List.flatMap_cons, List.length_append, List.length_append] at h
    have hfirst := u.length_resolved_le
    have hothers := length_flatMap_resolved_le units
    refine List.forall_mem_cons.mpr ⟨?_, ih (by omega)⟩
    by_contra hvalue
    have hlt := TextUnit.length_resolved_lt hvalue
    omega

section Reader

/-- Where a reader of a text stands, and what it has written. -/
structure Reader where
  place : Nat := 0
  written : List UInt8 := []
  deriving DecidableEq, Repr

/-- The reader after it has gone past some bytes and written others. -/
def Reader.advance (r : Reader) (count : Nat) (bytes : List UInt8) : Reader :=
  ⟨r.place + count, r.written ++ bytes⟩

/-- One round of a reader, with a check on every byte that it takes for granted. -/
def Reader.round (text : Array UInt8) (r : Reader) : Checked Reader :=
  if text.size ≤ r.place then return r
  else do
    let b ← Checked.read text r.place id
    if b ≠ 0x5C then return r.advance 1 [b]
    else
      match text[r.place + 1]? with
      | none => return r.advance 1 [0x5C]
      | some letter =>
        if letter = 0x78 then
          match text[r.place + 2]?, text[r.place + 3]? with
          | some high, some low =>
            match hexPair? high low with
            | some value => return r.advance 4 [value]
            | none => return r.advance 2 [0x5C, 0x78]
          | _, _ => return r.advance 2 [0x5C, 0x78]
        else
          match escapedLetter? letter with
          | some value => return r.advance 2 [value]
          | none => return r.advance 2 [0x5C, letter]

/-- A number of rounds of a reader. -/
def Reader.rounds (text : Array UInt8) : Nat → Reader → Checked Reader
  | 0, r => return r
  | n + 1, r => do rounds text n (← r.round text)

variable {front written : List UInt8}

theorem getElem?_place (front text : List UInt8) (i : Nat) :
    (front ++ text).toArray[front.length + i]? = text[i]? := by
  rw [List.getElem?_toArray, List.getElem?_append_right (Nat.le_add_right _ _),
    Nat.add_sub_cancel_left]

/-- In one round, a reader goes past the unit in front of it and writes what becomes of it. -/
theorem TextUnit.Leads.round_eq (h : u.Leads text rest) (front written : List UInt8) :
    Reader.round (front ++ text).toArray ⟨front.length, written⟩ =
      .ok ⟨front.length + u.bytes.length, written ++ u.resolved⟩ := by
  have hinside : ¬ (front ++ text).toArray.size ≤ front.length := by
    have hne := List.length_pos_of_ne_nil h.ne_nil
    rw [List.size_toArray, List.length_append]
    omega
  have hread := getElem?_place front text
  have hfirst : (front ++ text).toArray[front.length]? = text[0]? := hread 0
  rw [Reader.round, if_neg hinside]
  cases h with
  | single h rest =>
    rw [Checked.read_eq hfirst, Checked.ok_bind, id, if_pos h]
    rfl
  | last =>
    rw [Checked.read_eq hfirst, Checked.ok_bind, id, if_neg (not_not_intro rfl)]
    simp only [hread]
    rfl
  | digits h rest =>
    obtain ⟨value, hvalue⟩ := Option.isSome_iff_exists.mp h
    rw [Checked.read_eq hfirst, Checked.ok_bind, id, if_neg (not_not_intro rfl), resolved, value?,
      hvalue]
    simp only [hread, List.getElem?_cons_succ, List.getElem?_cons_zero, if_true, hvalue]
    rfl
  | @pair letter rest h =>
    rw [Checked.read_eq hfirst, Checked.ok_bind, id, if_neg (not_not_intro rfl)]
    simp only [hread, List.getElem?_cons_succ, List.getElem?_cons_zero]
    by_cases hdigits : letter = 0x78
    · subst hdigits
      rw [if_pos rfl]
      match rest with
      | [] => rfl
      | [_] => rfl
      | high :: low :: rest' =>
        simp only [List.getElem?_cons_succ, List.getElem?_cons_zero, h rfl high low rest' rfl]
        rfl
    · rw [if_neg hdigits, resolved, value?]
      cases escapedLetter? letter <;> rfl

/-- A reader at the end of the text stays there. -/
theorem Reader.rounds_of_end {text : Array UInt8} {r : Reader} (h : text.size ≤ r.place) (n : Nat) :
    r.rounds text n = .ok r := by
  induction n with
  | zero => rfl
  | succ n ih => rw [rounds, round, if_pos h, Checked.pure_eq_ok, Checked.ok_bind, ih]

/-- A reader that has gone past the front of a text is done with the rest after as many rounds as there
are units in it. -/
theorem IsUnits.rounds_eq (h : IsUnits text units) (front written : List UInt8) {n : Nat}
    (hn : units.length ≤ n) :
    Reader.rounds (front ++ text).toArray n ⟨front.length, written⟩ =
      .ok ⟨(front ++ text).length, written ++ unescape text⟩ := by
  induction h generalizing front written n with
  | nil =>
    rw [List.append_nil, unescape, List.append_nil]
    exact Reader.rounds_of_end (Nat.le_of_eq List.size_toArray) n
  | @cons u text rest units hleads _ ih =>
    obtain ⟨n, rfl⟩ : ∃ n', n = n' + 1 := ⟨n - 1, by rw [List.length_cons] at hn; omega⟩
    have hrest := ih (front ++ u.bytes) (written ++ u.resolved) (Nat.le_of_succ_le_succ hn)
    rw [List.append_assoc, ← hleads.eq_append, List.length_append, List.append_assoc,
      ← hleads.unescape_eq] at hrest
    rw [Reader.rounds, hleads.round_eq, Checked.ok_bind, hrest]

end Reader

theorem IsUnits.length_le (h : IsUnits text units) : units.length ≤ text.length := by
  induction h with
  | nil => exact Nat.le_refl _
  | cons hleads _ ih => exact Nat.succ_le_of_lt (Nat.lt_of_le_of_lt ih hleads.length_rest_lt)

/-- A reader is done with every text after at most as many rounds as the text has bytes, has looked at
no place outside of it, and has written the text with its escapes resolved. That is no longer than the
text; and it is the same text exactly if it is as long, and exactly if none of the units in which the
text is taken up is an escape. -/
theorem unescape_keeps_texts_without_escapes (text : List UInt8) :
    (∀ n, text.length ≤ n →
      Reader.rounds text.toArray n {} = .ok ⟨text.length, unescape text⟩) ∧
    (unescape text).length ≤ text.length ∧
    ∃ units, (∀ units', IsUnits text units' ↔ units' = units) ∧
      List.TFAE [∀ u ∈ units, u.value? = none, unescape text = text,
        (unescape text).length = text.length] := by
  obtain ⟨units, hunits⟩ := exists_isUnits text
  refine ⟨fun n hn => ?_, ?_, units, fun units' => ⟨fun h => h.unique hunits, ?_⟩, ?_⟩
  · exact hunits.rounds_eq [] [] (Nat.le_trans hunits.length_le hn)
  · calc (unescape text).length
        = (units.flatMap TextUnit.resolved).length := by rw [hunits.flatMap_resolved]
      _ ≤ (units.flatMap TextUnit.bytes).length := length_flatMap_resolved_le units
      _ = text.length := by rw [hunits.flatMap_bytes]
  · rintro rfl
    exact hunits
  · tfae_have 1 → 2 := by
      intro hnone
      calc unescape text
          = units.flatMap TextUnit.resolved := hunits.flatMap_resolved.symm
        _ = units.flatMap TextUnit.bytes :=
          List.flatMap_congr fun u hu => TextUnit.resolved_eq_bytes (hnone u hu)
        _ = text := hunits.flatMap_bytes
    tfae_have 2 → 3 := congrArg List.length
    tfae_have 3 → 1 := by
      intro hlength
      refine forall_value?_eq_none_of_length_eq ?_
      rw [hunits.flatMap_resolved, hunits.flatMap_bytes, hlength]
    tfae_finish

end StarMatch.Text
