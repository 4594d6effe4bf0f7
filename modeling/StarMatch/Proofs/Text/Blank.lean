import Mathlib.Data.List.DropRight
import StarMatch.Text.Blank

/-!
# Texts without the white space around them

Trimming a text takes white space off both of its ends, and nothing else: what is left stands somewhere
in the text with only white space around it, and neither begins nor ends in white space.
-/

namespace StarMatch.Text

/-- A text is another one with all of the white space around it. -/
structure IsCore (core text : List Char) : Prop where
  around : ∃ front back, text = front ++ core ++ back ∧ (∀ c ∈ front, isBlank c = true) ∧
    ∀ c ∈ back, isBlank c = true
  head : ∀ c ∈ core.head?, isBlank c = false
  last : ∀ c ∈ core.getLast?, isBlank c = false

theorem isCore_trim (text : List Char) : IsCore (trim text) text := by
  have hback : trim text = (trimFront text).rdropWhile isBlank := rfl
  refine ⟨⟨text.takeWhile isBlank, (trimFront text).rtakeWhile isBlank, ?_, ?_, ?_⟩, ?_, ?_⟩
  · rw [hback, List.append_assoc, List.rdropWhile_append_rtakeWhile, trimFront,
      List.takeWhile_append_dropWhile]
  · intro c hc
    exact List.mem_takeWhile_imp hc
  · intro c hc
    exact List.mem_rtakeWhile_imp hc
  · intro c hc
    obtain ⟨back, happend⟩ := List.rdropWhile_prefix isBlank (trimFront text)
    have hfront : (trimFront text).head? = some c := by
      rw [← happend, List.head?_append, ← hback, Option.mem_def.mp hc, Option.some_or]
    have hnot := List.head?_dropWhile_not isBlank text
    rw [trimFront] at hfront
    rw [hfront] at hnot
    exact hnot
  · intro c hc
    obtain ⟨hne, rfl⟩ := List.mem_getLast?_eq_getLast hc
    exact Bool.eq_false_iff.mpr (List.rdropWhile_last_not isBlank (trimFront text) hne)

/-- Nothing is left of a text exactly if it is white space throughout. -/
theorem forall_isBlank_of_trim_eq_nil {text : List Char} (h : trim text = []) :
    ∀ c ∈ text, isBlank c = true := by
  obtain ⟨front, back, htext, hfront, hback⟩ := (isCore_trim text).around
  rw [h, List.append_nil] at htext
  intro c hc
  rw [htext] at hc
  rcases List.mem_append.mp hc with hc | hc
  · exact hfront c hc
  · exact hback c hc

section Append

variable {front text text' : List Char}

/-- White space at the end of a text is taken off the text in front of it only if there is nothing else
in the text. -/
theorem trimBack_append (front text : List Char) :
    trimBack (front ++ text) =
      if (trimBack text).isEmpty then trimBack front else front ++ trimBack text := by
  rw [trimBack, List.reverse_append, List.dropWhile_append, apply_ite List.reverse,
    List.reverse_append, List.reverse_reverse, trimBack, List.isEmpty_reverse, trimBack]

theorem trimBack_append_of_eq_nil (h : trimBack text = []) :
    trimBack (front ++ text) = trimBack front := by
  rw [trimBack_append, h, List.isEmpty_nil, if_pos rfl]

theorem trimBack_append_of_ne_nil (h : trimBack text ≠ []) :
    trimBack (front ++ text) = front ++ trimBack text := by
  rw [trimBack_append, if_neg (by rwa [List.isEmpty_iff])]

/-- More is left of a text if there is something behind it that is not white space. -/
theorem trimBack_append_ne (h : trimBack text ≠ []) : trimBack (front ++ text) ≠ trimBack front := by
  have hfront : (trimBack front).length ≤ front.length :=
    (List.rdropWhile_prefix isBlank front).length_le
  have htext := List.length_pos_of_ne_nil h
  intro heq
  have hlength := congrArg List.length heq
  rw [trimBack_append_of_ne_nil h, List.length_append] at hlength
  omega

/-- Whether two texts differ in more than white space at their end does not depend on a text in front
of both. -/
theorem trimBack_append_eq_iff :
    trimBack (front ++ text) = trimBack (front ++ text') ↔ trimBack text = trimBack text' := by
  by_cases h : trimBack text = [] <;> by_cases h' : trimBack text' = []
  · exact iff_of_true ((trimBack_append_of_eq_nil h).trans (trimBack_append_of_eq_nil h').symm)
      (h.trans h'.symm)
  · rw [trimBack_append_of_eq_nil h, h]
    exact iff_of_false (trimBack_append_ne h').symm (Ne.symm h')
  · rw [trimBack_append_of_eq_nil h', h']
    exact iff_of_false (trimBack_append_ne h) h
  · rw [trimBack_append_of_ne_nil h, trimBack_append_of_ne_nil h', List.append_cancel_left_eq]

/-- The same holds with white space taken off both ends, if the text in front is not white space
throughout. -/
theorem trim_append_eq_iff (h : ∃ c ∈ front, isBlank c = false) :
    trim (front ++ text) = trim (front ++ text') ↔ trimBack text = trimBack text' := by
  have hfront : ¬ (front.dropWhile isBlank).isEmpty = true := by
    obtain ⟨c, hc, hblank⟩ := h
    rw [List.isEmpty_iff, List.dropWhile_eq_nil_iff]
    intro hall
    exact Bool.false_ne_true (hblank.symm.trans (hall c hc))
  have happend : ∀ text, trimFront (front ++ text) = trimFront front ++ text := by
    intro text
    rw [trimFront, List.dropWhile_append, if_neg hfront, trimFront]
  rw [trim, trim, happend, happend, trimBack_append_eq_iff]

end Append

end StarMatch.Text
