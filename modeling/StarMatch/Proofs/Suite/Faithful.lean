import StarMatch.Proofs.Text.Pads
import StarMatch.Suite.Report
import StarMatch.Suite.Subject

/-!
# What a report tells about the inputs

In a report on failures, the inputs stand between texts that do not depend on them, and each of them is
shown without a line feed, so an input is found again in the report: where two runs report the same
failures up to their inputs, the reports differ if the inputs do. There is one exception. White space is
taken off the end of the report, so the input of the failure that comes last is told only up to white
space at its end.
-/

namespace StarMatch.Suite

open Text

/-- Two failures that are reported alike, apart from the inputs of their cases. -/
structure Failure.SameButInput (f g : Failure) : Prop where
  fullName : f.case.fullName = g.case.fullName
  result : f.result.name = g.result.name
  pattern : f.case.pattern = g.case.pattern
  text : f.kind.explain f.case = g.kind.explain g.case

/-- The paragraph about a failure up to the input. -/
def Failure.heading (f : Failure) : List Char :=
  (shownName f.case f.result).toList ++ ": ".toList ++ (f.kind.explain f.case).toList ++
    "\npattern:     ".toList ++ escape f.case.pattern ++ "\ninput:       ".toList

/-- The paragraphs about several failures. -/
def paragraphs (failures : List Failure) : List Char :=
  joined ['\n', '\n'] (failures.map Failure.paragraph)

section Paragraphs

variable {f g : Failure} {fs gs : List Failure}

theorem Failure.paragraph_eq (f : Failure) : f.paragraph = f.heading ++ escape f.case.input := rfl

theorem Failure.SameButInput.heading_eq (h : f.SameButInput g) : f.heading = g.heading := by
  rw [heading, heading, shownName, shownName, h.fullName, h.result, h.pattern, h.text]

theorem Failure.exists_mem_heading (f : Failure) : ∃ c ∈ f.heading, isBlank c = false :=
  ⟨':', by simp [heading], by decide⟩

theorem paragraphs_singleton (f : Failure) :
    paragraphs [f] = f.heading ++ escape f.case.input := by
  simp [paragraphs, joined, Failure.paragraph_eq]

theorem paragraphs_cons_cons (f g : Failure) (fs : List Failure) :
    paragraphs (f :: g :: fs) =
      f.heading ++ (escape f.case.input ++ '\n' :: '\n' :: paragraphs (g :: fs)) := by
  simp [paragraphs, joined, Failure.paragraph_eq]

theorem exists_paragraphs_cons (f : Failure) (fs : List Failure) :
    ∃ rest, paragraphs (f :: fs) = f.heading ++ rest := by
  cases fs with
  | nil => exact ⟨_, paragraphs_singleton f⟩
  | cons g fs => exact ⟨_, paragraphs_cons_cons f g fs⟩

theorem trimBack_paragraphs_cons_ne_nil (f : Failure) (fs : List Failure) :
    trimBack (paragraphs (f :: fs)) ≠ [] := by
  obtain ⟨c, hc, hblank⟩ := f.exists_mem_heading
  obtain ⟨rest, hrest⟩ := exists_paragraphs_cons f fs
  intro h
  have hall := List.rdropWhile_eq_nil_iff.mp h c (hrest ▸ List.mem_append_left rest hc)
  exact Bool.false_ne_true (hblank.symm.trans hall)

/-- Only the paragraphs behind the first one are touched if white space is taken off the end. -/
theorem trimBack_paragraphs_cons_cons (f g : Failure) (fs : List Failure) :
    trimBack (escape f.case.input ++ '\n' :: '\n' :: paragraphs (g :: fs)) =
      escape f.case.input ++ '\n' :: '\n' :: trimBack (paragraphs (g :: fs)) := by
  have hbreak : ∀ text : List Char, escape f.case.input ++ '\n' :: '\n' :: text =
      (escape f.case.input ++ ['\n', '\n']) ++ text := by
    intro text
    rw [List.append_assoc]
    rfl
  have hothers := trimBack_paragraphs_cons_ne_nil g fs
  rw [hbreak, trimBack_append_of_ne_nil hothers, ← hbreak]

end Paragraphs

/-- Failures at the same place have the same input, except that at the end of the lists the inputs may
differ in white space at their end. -/
def InputsAgree (fs gs : List Failure) : Prop :=
  ∀ (place : Nat) (f g : Failure), fs[place]? = some f → gs[place]? = some g →
    f.case.input = g.case.input ∨
      place + 1 = fs.length ∧ SameButPads f.case.input g.case.input

section InputsAgree

variable {f f' g g' : Failure} {fs gs : List Failure}

theorem inputsAgree_nil : InputsAgree [] [] := by
  intro place f g hf
  cases hf

theorem inputsAgree_singleton_iff :
    InputsAgree [f] [g] ↔ SameButPads f.case.input g.case.input := by
  constructor
  · intro h
    rcases h 0 f g rfl rfl with hinput | ⟨-, hpads⟩
    · rw [hinput, ← trimBack_escape_eq_iff]
    · exact hpads
  · intro hpads place f' g' hf hg
    cases place with
    | zero =>
      obtain rfl := Option.some.inj hf
      obtain rfl := Option.some.inj hg
      exact .inr ⟨rfl, hpads⟩
    | succ place => cases hf

theorem inputsAgree_cons_cons_iff :
    InputsAgree (f :: f' :: fs) (g :: g' :: gs) ↔
      f.case.input = g.case.input ∧ InputsAgree (f' :: fs) (g' :: gs) := by
  constructor
  · intro h
    constructor
    · exact (h 0 f g rfl rfl).resolve_right fun hlast => absurd hlast.1 (by simp)
    · intro place x y hx hy
      exact (h (place + 1) x y hx hy).imp_right (And.imp_left Nat.succ.inj)
  · rintro ⟨hinput, hagree⟩ place x y hx hy
    cases place with
    | zero =>
      obtain rfl := Option.some.inj hx
      obtain rfl := Option.some.inj hy
      exact .inl hinput
    | succ place => exact (hagree place x y hx hy).imp_right (And.imp_left (congrArg Nat.succ))

end InputsAgree

section Reports

variable {fs gs : List Failure}

/-- What is told about the inputs by the paragraphs about failures, if white space is taken off their
end. -/
theorem trimBack_paragraphs_eq_iff (h : List.Forall₂ Failure.SameButInput fs gs) :
    trimBack (paragraphs fs) = trimBack (paragraphs gs) ↔ InputsAgree fs gs := by
  induction h with
  | nil => exact iff_of_true rfl inputsAgree_nil
  | @cons f g fs gs hfirst hothers ih =>
    cases hothers with
    | nil =>
      rw [paragraphs_singleton, paragraphs_singleton, hfirst.heading_eq, trimBack_append_eq_iff,
        trimBack_escape_eq_iff, inputsAgree_singleton_iff]
    | @cons f' g' fs gs =>
      -- The line feed behind the first input ends it, so nothing is taken off it.
      rw [paragraphs_cons_cons, paragraphs_cons_cons, hfirst.heading_eq, trimBack_append_eq_iff,
        trimBack_paragraphs_cons_cons, trimBack_paragraphs_cons_cons,
        escape_append_newline_eq_iff, List.cons.injEq, ih, inputsAgree_cons_cons_iff, eq_self,
        true_and]

/-- Nothing more is lost if white space is taken off both ends. -/
theorem trim_paragraphs_eq_iff (h : List.Forall₂ Failure.SameButInput fs gs) :
    trim (paragraphs fs) = trim (paragraphs gs) ↔ InputsAgree fs gs := by
  rw [← trimBack_paragraphs_eq_iff h]
  cases h with
  | nil => rfl
  | @cons f g fs gs hfirst hothers =>
    obtain ⟨rest, hrest⟩ := exists_paragraphs_cons f fs
    obtain ⟨rest', hrest'⟩ := exists_paragraphs_cons g gs
    rw [hrest, hrest', ← hfirst.heading_eq, trim_append_eq_iff f.exists_mem_heading,
      trimBack_append_eq_iff]

end Reports

namespace Records

theorem report?_eq_some {r : Records} (h : r.failed ≠ []) :
    r.report? = some (String.ofList
      ("found ".toList ++ (toString r.failed.length).toList ++ " failures:\n".toList ++ rule ++
        ['\n'] ++ trim (paragraphs r.failed) ++ ['\n'] ++ rule ++ "\n\n".toList ++
        advice.toList)) := by
  rw [report?, if_neg (by rwa [List.isEmpty_iff])]
  rfl

/-- Two runs that report the same failures, apart from the inputs of the cases, have the same report
exactly if the inputs are the same at every place, except that the input of the failure that comes last
may differ in white space at its end. -/
theorem report_tells_inputs_up_to_last_pads {r r' : Records}
    (h : List.Forall₂ Failure.SameButInput r.failed r'.failed) :
    r.report? = r'.report? ↔
      ∀ (place : Nat) (f f' : Failure), r.failed[place]? = some f → r'.failed[place]? = some f' →
        f.case.input = f'.case.input ∨
          place + 1 = r.failed.length ∧ SameButPads f.case.input f'.case.input := by
  rw [← InputsAgree, ← trim_paragraphs_eq_iff h]
  have hlength : r.failed.length = r'.failed.length := h.length_eq
  by_cases hnil : r.failed = []
  · have hnil' : r'.failed = [] := List.length_eq_zero_iff.mp (hlength ▸ hnil ▸ rfl)
    simp [report?, hnil, hnil']
  · have hnil' : r'.failed ≠ [] := by
      intro hnil'
      exact hnil (List.length_eq_zero_iff.mp (hlength.trans (hnil' ▸ rfl)))
    rw [report?_eq_some hnil, report?_eq_some hnil', hlength, Option.some_inj,
      String.ofList_inj]
    simp only [List.append_assoc, List.append_cancel_left_eq, List.append_cancel_right_eq]

/-- Of two failures, the first has one more space at the end of its input in another run, and then the
reports differ; and the second ends in a space in one run and in a wider one in the other, and then they
do not. -/
theorem report_tells_inputs_up_to_last_pads_two :
    let failure (name : String) (input : List UInt8) : Failure :=
      ⟨⟨"g", name, "g/" ++ name, [0x78], input, some true, true⟩, ⟨"", .verdict false⟩, .wrongVerdict⟩
    let records (input input' : List UInt8) : Records :=
      { failed := [failure "a" input, failure "b" input'] }
    (records [0x61] []).report? ≠ (records [0x61, 0x20] []).report? ∧
      (records [] [0x61, 0x20]).report? = (records [] [0x61, 0xE3, 0x80, 0x80]).report? := by
  intro failure records
  have hsame : ∀ x x' y y',
      List.Forall₂ Failure.SameButInput (records x y).failed (records x' y').failed :=
    fun _ _ _ _ => .cons ⟨rfl, rfl, rfl, rfl⟩ (.cons ⟨rfl, rfl, rfl, rfl⟩ .nil)
  constructor
  · intro hreport
    have hinputs := (report_tells_inputs_up_to_last_pads (hsame _ _ _ _)).mp hreport 0 _ _ rfl rfl
    rcases hinputs with hinput | ⟨hlast, -⟩
    · cases hinput
    · cases hlast
  · refine (report_tells_inputs_up_to_last_pads (hsame _ _ _ _)).mpr fun place f f' hf hf' => ?_
    match place with
    | 0 =>
      obtain rfl := Option.some.inj hf
      obtain rfl := Option.some.inj hf'
      exact .inl rfl
    | 1 =>
      obtain rfl := Option.some.inj hf
      obtain rfl := Option.some.inj hf'
      exact .inr ⟨rfl, [0x61], [' '], ['\u3000'], rfl, rfl,
        List.forall_mem_singleton.mpr (by decide), List.forall_mem_singleton.mpr (by decide)⟩
    | place + 2 => cases hf

/-- A case that fails has another input in another run, one with a space at its end, and the reports of
the two runs are the same. -/
theorem report_hides_space_at_end :
    let c (input : List UInt8) : Case := ⟨"g", "a", "g/a", [0x78], input, some true, true⟩
    let failed (input : List UInt8) : List Failure :=
      [⟨c input, ⟨"", .verdict false⟩, .wrongVerdict⟩]
    let records (input : List UInt8) : Records :=
      (Runner.testAll (Subject.compile {}) {} [c input]).records
    (records [0x61]).failed = failed [0x61] ∧
      (records [0x61, 0x20]).failed = failed [0x61, 0x20] ∧
      (records [0x61]).report? = (records [0x61, 0x20]).report? := by
  intro c failed records
  have hfailed : (records [0x61]).failed = failed [0x61] := by decide +kernel
  have hfailed' : (records [0x61, 0x20]).failed = failed [0x61, 0x20] := by decide +kernel
  have hshown : trim (paragraphs (failed [0x61])) = trim (paragraphs (failed [0x61, 0x20])) := by
    decide +kernel
  refine ⟨hfailed, hfailed', ?_⟩
  rw [report?_eq_some (by rw [hfailed]; exact List.cons_ne_nil _ _),
    report?_eq_some (by rw [hfailed']; exact List.cons_ne_nil _ _), hfailed, hfailed', hshown]
  rfl

end Records

end StarMatch.Suite
