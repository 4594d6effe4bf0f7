import StarMatch.CommandLine.Scan

/-!
# Phrases of a command line

A phrase is one item with the arguments that spell it: an operand, a flag, or a flag and its value, in
one argument or in two. Scanning phrases that stand one behind the other gives their items, and an
argument list that can be scanned is made of phrases if it has no separator and no argument that holds
more than one flag.
-/

namespace StarMatch.CommandLine

/-- The arguments spell the item: one argument alone, or a flag and its value apart. -/
inductive Item.SpelledBy (flags : List Flag) : Item → List (List UInt8) → Prop where
  | alone {item : Item} {arg : List UInt8} (h : readArgument flags arg = { items := [item] }) :
    SpelledBy flags item [arg]
  | apart {arg : List UInt8} {flag : Flag} {name : String} (value : List UInt8)
    (h : readArgument flags arg = { ending := .wantsValue flag name }) :
    SpelledBy flags (.setting flag value) [arg, value]

/-- An item and arguments that spell it. -/
structure Phrase (flags : List Flag) where
  item : Item
  args : List (List UInt8)
  spelled : item.SpelledBy flags args

/-- How many items an argument begins: those that stand in it, and the one that still wants its value. -/
def Reading.count (r : Reading) : Nat :=
  match r.ending with
  | .wantsValue _ _ => r.items.length + 1
  | _ => r.items.length

variable {flags : List Flag} {arg : List UInt8} {args : List (List UInt8)} {items : List Item}

theorem scan_cons_of_complete (h : readArgument flags arg = { items := items })
    (args : List (List UInt8)) :
    scan flags (arg :: args) = (scan flags args).prepend items := by
  rw [scan.eq_def]
  simp only [h]

theorem scan_cons_of_wantsValue {flag : Flag} {name : String}
    (h : readArgument flags arg = { ending := .wantsValue flag name }) (value : List UInt8)
    (args : List (List UInt8)) :
    scan flags (arg :: value :: args) = (scan flags args).prepend [.setting flag value] := by
  rw [scan.eq_def]
  simp only [h, List.nil_append]

theorem scan_phrase_append (phrase : Phrase flags) (args : List (List UInt8)) :
    scan flags (phrase.args ++ args) = (scan flags args).prepend [phrase.item] := by
  obtain ⟨item, words, hspelled⟩ := phrase
  cases hspelled with
  | alone h => exact scan_cons_of_complete h args
  | apart value h => exact scan_cons_of_wantsValue h value args

/-- Scanning phrases gives their items. -/
theorem scan_phrases (phrases : List (Phrase flags)) :
    scan flags (phrases.flatMap Phrase.args) = { items := phrases.map Phrase.item } := by
  induction phrases with
  | nil => simp [scan]
  | cons phrase phrases ih =>
    rw [List.flatMap_cons, scan_phrase_append, ih]
    rfl

section Readings

theorem readLetters_ending_ne_separator (letters : List UInt8) :
    (readLetters flags letters).ending ≠ .separator := by
  fun_induction readLetters flags letters with
  | case8 lead tail trail letter rest hletter flag hflag htakes hequals others ih => exact ih
  | _ => simp

theorem readLetters_items_ne_nil {letters : List UInt8} (hletters : letters ≠ [])
    (h : (readLetters flags letters).ending = .complete) : (readLetters flags letters).items ≠ [] := by
  fun_induction readLetters flags letters with
  | case1 => exact absurd rfl hletters
  | case2 | case3 | case4 | case7 => cases h
  | case5 | case6 | case8 => exact List.cons_ne_nil _ _

theorem readLong_ending_ne_separator (body : List UInt8) :
    (readLong flags body).ending ≠ .separator := by
  fun_cases readLong flags body <;> simp_all

theorem readLong_items_ne_nil {body : List UInt8} (h : (readLong flags body).ending = .complete) :
    (readLong flags body).items ≠ [] := by
  revert h
  fun_cases readLong flags body <;> simp_all

/-- Only two dashes alone end the flags. -/
theorem eq_of_ending_eq_separator (h : (readArgument flags arg).ending = .separator) :
    arg = [dash, dash] := by
  revert h
  fun_cases readArgument flags arg with
  | case2 =>
    intro h
    exact absurd h (readLetters_ending_ne_separator _)
  | case3 => simp_all
  | case4 =>
    intro h
    exact absurd h (readLong_ending_ne_separator _)
  | case1 | case5 =>
    intro h
    cases h

/-- An argument that is complete holds an item. -/
theorem items_ne_nil_of_complete (h : (readArgument flags arg).ending = .complete) :
    (readArgument flags arg).items ≠ [] := by
  revert h
  fun_cases readArgument flags arg with
  | case1 | case5 => simp
  | case2 => exact readLetters_items_ne_nil (List.cons_ne_nil _ _)
  | case3 => simp
  | case4 => exact readLong_items_ne_nil

/-- A complete argument that holds no more than one item holds exactly one. -/
theorem exists_single_of_complete (h : (readArgument flags arg).ending = .complete)
    (hcount : (readArgument flags arg).count ≤ 1) :
    ∃ item, readArgument flags arg = { items := [item] } := by
  have hitems := items_ne_nil_of_complete h
  cases hread : readArgument flags arg with
  | mk items ending =>
    rw [hread] at h hcount hitems
    obtain rfl : ending = .complete := h
    obtain ⟨item, others, rfl⟩ := List.exists_cons_of_ne_nil hitems
    have hothers : others = [] := List.eq_nil_of_length_eq_zero (by
      simpa [Reading.count] using hcount)
    exact ⟨item, by rw [hothers]⟩

/-- An argument that begins no more than one item and ends wanting its value holds no other. -/
theorem eq_of_wantsValue {flag : Flag} {name : String}
    (h : (readArgument flags arg).ending = .wantsValue flag name)
    (hcount : (readArgument flags arg).count ≤ 1) :
    readArgument flags arg = { ending := .wantsValue flag name } := by
  cases hread : readArgument flags arg with
  | mk items ending =>
    rw [hread] at h hcount
    obtain rfl : ending = .wantsValue flag name := h
    have hitems : items = [] := List.eq_nil_of_length_eq_zero (by
      simpa [Reading.count] using hcount)
    rw [hitems]

end Readings

/-- Arguments that can be scanned to their end are the arguments of phrases, if no two dashes stand
alone and no argument begins more than one item. -/
theorem exists_phrases (hstop : (scan flags args).stop? = none) (hseparator : [dash, dash] ∉ args)
    (hcount : ∀ arg ∈ args, (readArgument flags arg).count ≤ 1) :
    ∃ phrases : List (Phrase flags), phrases.flatMap Phrase.args = args := by
  induction args using scan.induct flags with
  | case1 => exact ⟨[], rfl⟩
  | case2 arg reading args hcomplete ih =>
    obtain ⟨harg, hargs⟩ := List.forall_mem_cons.mp hcount
    obtain ⟨item, hread⟩ := exists_single_of_complete hcomplete harg
    rw [scan_cons_of_complete hread] at hstop
    obtain ⟨phrases, hphrases⟩ := ih hstop (fun h => hseparator (List.mem_cons_of_mem _ h)) hargs
    exact ⟨⟨item, _, .alone hread⟩ :: phrases, by rw [List.flatMap_cons, hphrases]; rfl⟩
  | case3 arg reading args hsep =>
    rw [eq_of_ending_eq_separator hsep] at hseparator
    exact absurd List.mem_cons_self hseparator
  | case4 arg reading flag name value args hwants ih =>
    obtain ⟨harg, hargs⟩ := List.forall_mem_cons.mp hcount
    have hread := eq_of_wantsValue hwants harg
    rw [scan_cons_of_wantsValue hread] at hstop
    obtain ⟨phrases, hphrases⟩ := ih hstop
      (fun h => hseparator (List.mem_cons_of_mem _ (List.mem_cons_of_mem _ h)))
      (List.forall_mem_cons.mp hargs).2
    exact ⟨⟨.setting flag value, _, .apart value hread⟩ :: phrases, by
      rw [List.flatMap_cons, hphrases]; rfl⟩
  | case5 arg reading flag name hwants =>
    rw [scan.eq_def] at hstop
    simp [show (readArgument flags arg).ending = _ from hwants] at hstop
  | case6 arg args reading reason hreason =>
    rw [scan.eq_def] at hstop
    simp [show (readArgument flags arg).ending = _ from hreason] at hstop

end StarMatch.CommandLine
