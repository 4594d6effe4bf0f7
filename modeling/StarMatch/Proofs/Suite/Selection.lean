import Mathlib.Data.List.Induction
import StarMatch.Proofs.Suite.Records
import StarMatch.Proofs.Text.Blank
import StarMatch.Proofs.Text.Chunks

/-!
# Which cases filters select

A list of items between commas spells filters, and those that are added later stand behind them. Of all
of them the last one whose text occurs in the full name of a case decides whether it is run, wherever
it comes from. A single wanted filter, at any place, turns away the cases in whose names no text occurs.
-/

namespace StarMatch.Suite

/-- The items between the commas of a text. -/
structure IsItems (items : List (List Char)) (text : List Char) : Prop where
  intercalate_eq : [','].intercalate items = text
  comma_notMem : ∀ item ∈ items, ',' ∉ item
  /-- Even a text of nothing has an item. -/
  ne_nil : items ≠ []

theorem isItems_splitAtCommas (text : List Char) : IsItems (splitAtCommas text) text := by
  induction text with
  | nil => exact ⟨rfl, by simp [splitAtCommas], by simp [splitAtCommas]⟩
  | cons c cs ih =>
    obtain ⟨hjoin, hcomma, hne⟩ := ih
    unfold splitAtCommas
    obtain ⟨piece, pieces, hpieces⟩ := List.exists_cons_of_ne_nil hne
    rw [hpieces] at hjoin hcomma ⊢
    by_cases hc : c = ','
    · rw [if_pos hc]
      refine ⟨?_, ?_, List.cons_ne_nil _ _⟩
      · rw [List.intercalate_cons_cons, hjoin, hc]
        rfl
      · exact List.forall_mem_cons.mpr ⟨List.not_mem_nil, hcomma⟩
    · rw [if_neg hc]
      obtain ⟨hpiece, hrest⟩ := List.forall_mem_cons.mp hcomma
      refine ⟨?_, ?_, List.cons_ne_nil _ _⟩
      · cases pieces with
        | nil => simpa using hjoin
        | cons next pieces =>
          rw [List.intercalate_cons_cons] at hjoin ⊢
          rw [← hjoin]
          rfl
      · exact List.forall_mem_cons.mpr ⟨by simp [hpiece, Ne.symm hc], hrest⟩

section Occurrence

variable {needle name : List Char}

theorem occursIn_iff : occursIn needle name = true ↔ needle <:+: name := by
  induction name with
  | nil => rw [occursIn, List.isEmpty_iff, List.infix_nil]
  | cons c cs ih => rw [occursIn, Bool.or_eq_true, List.isPrefixOf_iff_prefix, ih, List.infix_cons_iff]

theorem prefix_of_encode_append {back : List UInt8}
    (h : Text.Utf8.encode needle ++ back = Text.Utf8.encode name) : needle <+: name := by
  induction needle generalizing name with
  | nil => exact List.nil_prefix
  | cons c needle ih =>
    rw [Text.Utf8.encode_cons, List.append_assoc, eq_comm, Text.Utf8.encode_eq_append_iff] at h
    obtain ⟨name, rfl, hrest⟩ := h
    exact List.prefix_cons_inj c |>.mpr (ih hrest)

/-- The bytes of a text occur among those of a name only where its characters do: a piece of a
character never begins like one. -/
theorem encode_infix_encode_iff :
    Text.Utf8.encode needle <:+: Text.Utf8.encode name ↔ needle <:+: name := by
  constructor
  · rintro ⟨front, back, hname⟩
    cases needle with
    | nil => exact List.nil_infix
    | cons c needle =>
      rw [List.append_assoc, eq_comm] at hname
      obtain ⟨left, right, tail, rfl, hright, htail⟩ := Text.Utf8.exists_boundary hname
      obtain ⟨lead, trail, hlead⟩ := Text.Utf8.exists_utf8EncodeChar_eq_cons c
      cases tail with
      | nil => exact (prefix_of_encode_append hright).isInfix.trans (List.suffix_append _ _).isInfix
      | cons b tail =>
        rw [Text.Utf8.encode_cons, hlead, List.cons_append, List.cons_append, List.cons_append,
          List.cons.injEq] at hright
        exact absurd (Text.Utf8.isUTF8FirstByte_of_utf8EncodeChar hlead)
          (hright.1 ▸ htail b List.mem_cons_self)
  · rintro ⟨front, back, rfl⟩
    exact ⟨Text.Utf8.encode front, Text.Utf8.encode back, by simp⟩

end Occurrence

namespace Filter

/-- An item spells a filter: a leading minus sign says that what stands behind it is not wanted. White
space around an item does not count, and an item of nothing else spells no filter. -/
inductive Spells (item : List Char) : Option Filter → Prop
  | nothing (hblank : ∀ c ∈ item, Text.isBlank c = true) : Spells item none
  | unwanted {text : List Char} (hcore : Text.IsCore ('-' :: text) item) :
    Spells item (some ⟨false, text⟩)
  | wanted {text : List Char} (hcore : Text.IsCore text item) (hne : text ≠ [])
    (hhead : text.head? ≠ some '-') :
    Spells item (some ⟨true, text⟩)

theorem spells_ofItem? (item : List Char) : Spells item (ofItem? item) := by
  have hcore := Text.isCore_trim item
  unfold ofItem?
  split
  · next htrim => exact .nothing (Text.forall_isBlank_of_trim_eq_nil htrim)
  · next text htrim => exact .unwanted (htrim ▸ hcore)
  · next hne hminus =>
    refine .wanted hcore hne ?_
    intro hhead
    obtain ⟨text, htext⟩ := List.head?_eq_some_iff.mp hhead
    exact hminus text htext

/-- The text of a filter occurs in a name, which is to say its bytes among those of the name. -/
def Hits (f : Filter) (name : List Char) : Prop :=
  Text.Utf8.encode f.text <:+: Text.Utf8.encode name

/-- Filters select a name. -/
inductive Selects (filters : List Filter) (name : List Char) : Prop
  /-- The last filter whose text occurs in the name is a wanted one. -/
  | last {before after : List Filter} {f : Filter} (hfilters : filters = before ++ f :: after)
    (hhits : f.Hits name) (hafter : ∀ g ∈ after, ¬g.Hits name)
    (hwanted : f.wanted = true)
  /-- No text occurs in the name, and nothing is asked for. -/
  | default (hnone : ∀ f ∈ filters, ¬f.Hits name) (hunwanted : ∀ f ∈ filters, f.wanted = false)

variable {filters : List Filter} {name : List Char} {f : Filter}

theorem hits_iff_chars : f.Hits name ↔ f.text <:+: name :=
  encode_infix_encode_iff

theorem occursIn_text_iff : occursIn f.text name = true ↔ f.Hits name := by
  rw [hits_iff_chars, occursIn_iff]

theorem hits_of_text_eq_nil (h : f.text = []) (name : List Char) : f.Hits name := by
  rw [hits_iff_chars, h]
  exact List.nil_infix

/-- The last filter whose text occurs in a name. -/
def decisive? (filters : List Filter) (name : List Char) : Option Filter :=
  filters.reverse.find? fun f => occursIn f.text name

theorem decisive?_concat (filters : List Filter) (f : Filter) (name : List Char) :
    decisive? (filters ++ [f]) name =
      if occursIn f.text name then some f else decisive? filters name := by
  rw [decisive?, List.reverse_append, List.reverse_singleton, List.singleton_append, List.find?_cons]
  cases occursIn f.text name <;> rfl

theorem decisive?_eq_some_iff :
    decisive? filters name = some f ↔
      f.Hits name ∧ ∃ before after, filters = before ++ f :: after ∧
        ∀ g ∈ after, ¬g.Hits name := by
  rw [decisive?, List.find?_eq_some_iff_append, occursIn_text_iff]
  refine and_congr_right fun _ => ?_
  constructor
  · rintro ⟨after, before, hreverse, hafter⟩
    refine ⟨before.reverse, after.reverse, ?_, ?_⟩
    · rw [← List.reverse_reverse filters, hreverse]
      simp
    · intro g hg
      have hnot := hafter g (List.mem_reverse.mp hg)
      rwa [Bool.not_eq_true', ← Bool.not_eq_true, occursIn_text_iff] at hnot
  · rintro ⟨before, after, rfl, hafter⟩
    refine ⟨after.reverse, before.reverse, by simp, ?_⟩
    intro g hg
    rw [Bool.not_eq_true', ← Bool.not_eq_true, occursIn_text_iff]
    exact hafter g (List.mem_reverse.mp hg)

theorem decisive?_eq_none_iff :
    decisive? filters name = none ↔ ∀ f ∈ filters, ¬f.Hits name := by
  simp [decisive?, occursIn_text_iff]

/-- Each filter whose text occurs in the name overrules those before it. -/
theorem allow_eq (filters : List Filter) (name : List Char) :
    allow filters name =
      ((decisive? filters name).map Filter.wanted).getD (!filters.any Filter.wanted) := by
  unfold allow
  generalize (!filters.any Filter.wanted) = start
  induction filters using List.reverseRecOn with
  | nil => rfl
  | append_singleton filters f ih =>
    rw [List.foldl_append, List.foldl_cons, List.foldl_nil, ih, decisive?_concat]
    cases occursIn f.text name <;> rfl

theorem allow_iff_selects : allow filters name = true ↔ Selects filters name := by
  rw [allow_eq]
  constructor
  · intro hallow
    cases hdecisive : decisive? filters name with
    | none =>
      rw [hdecisive] at hallow
      exact .default (decisive?_eq_none_iff.mp hdecisive) (by simpa using hallow)
    | some f =>
      rw [hdecisive] at hallow
      obtain ⟨hhits, before, after, hfilters, hafter⟩ := decisive?_eq_some_iff.mp hdecisive
      exact .last hfilters hhits hafter hallow
  · intro hselects
    cases hselects with
    | last hfilters hhits hafter hwanted =>
      rw [decisive?_eq_some_iff.mpr ⟨hhits, _, _, hfilters, hafter⟩]
      exact hwanted
    | default hnone hunwanted =>
      rw [decisive?_eq_none_iff.mpr hnone]
      simpa using hunwanted

theorem forall₂_spells_ofItem? (items : List (List Char)) :
    List.Forall₂ Spells items (items.map ofItem?) := by
  rw [List.forall₂_map_right_iff]
  exact List.forall₂_same.mpr fun item _ => spells_ofItem? item

theorem ofVariable_encode (value : List Char) :
    ofVariable (some (Text.Utf8.encode value)) = .ok (ofList value) := by
  rw [ofVariable, Text.Utf8.decode?_encode]

end Filter

namespace Runner

variable (compile : Case → Compilation) (r : Runner) (c : Case)

@[simp] theorem filters_testAll (cases : List Case) :
    (testAll compile r cases).filters = r.filters := by
  induction cases generalizing r with
  | nil => rfl
  | cons c cases ih =>
    rw [testAll, List.foldl_cons, ← testAll, ih, testAllowed_eq]

@[simp] theorem foldl_addFilter (later : List Filter) :
    later.foldl addFilter r = { r with filters := r.filters ++ later } := by
  induction later generalizing r with
  | nil => rw [List.foldl_nil, List.append_nil]
  | cons f later ih => rw [List.foldl_cons, ih, addFilter, List.append_assoc, List.singleton_append]

/-- The case is met with the filters that the run began with. -/
theorem testAll_append_cons (before after : List Case) :
    testAll compile r (before ++ c :: after) =
      testAll compile (testAllowed compile (testAll compile r before) c) after := by
  rw [testAll, List.foldl_append, List.foldl_cons]
  rfl

/-- The filters of a runner are those that the items of the variable spell, in their order, and behind
them those that are added later. A run comes to a case with the filters it began with, and runs it
exactly if they select its full name, which adds what compiling its pattern and matching its input lead
to; otherwise it records a skip and goes on. -/
theorem testAll_runs_cases_that_filters_select (value : List Char) :
    ∃ items spelled, IsItems items value ∧ List.Forall₂ Filter.Spells items spelled ∧
      Filter.ofVariable (some (Text.Utf8.encode value)) = .ok (spelled.filterMap id) ∧
      (∀ f ∈ spelled.filterMap id, f.text = [] → ∀ name, f.Hits name) ∧
      ∀ (later : List Filter) (records : Records) (compile : Case → Compilation)
        (before after : List Case) (c : Case),
        let r := later.foldl addFilter { filters := spelled.filterMap id, records }
        let met := testAll compile r before
        (Filter.Selects (spelled.filterMap id ++ later) c.fullName.toList →
          testAll compile r (before ++ c :: after) =
              testAll compile (met.test compile c) after ∧
            ∃ added, Adds compile c added ∧
              met.test compile c = { met with records := met.records ++ added }) ∧
        (¬Filter.Selects (spelled.filterMap id ++ later) c.fullName.toList →
          testAll compile r (before ++ c :: after) =
            testAll compile { met with records := met.records.skip c ⟨"", .absent⟩ } after) := by
  refine ⟨splitAtCommas value, (splitAtCommas value).map Filter.ofItem?, isItems_splitAtCommas value,
    Filter.forall₂_spells_ofItem? _, ?_, fun _ _ htext => Filter.hits_of_text_eq_nil htext, ?_⟩
  · rw [Filter.ofVariable_encode, Filter.ofList, List.filterMap_map]
    rfl
  · intro later records compile before after c r met
    have hfilters : met.filters =
        ((splitAtCommas value).map Filter.ofItem?).filterMap id ++ later := by
      simp only [met, r, filters_testAll, foldl_addFilter]
    rw [← hfilters, testAll_append_cons, ← Filter.allow_iff_selects]
    constructor
    · intro hallow
      refine ⟨?_, exists_adds_of_test compile met c⟩
      rw [testAllowed, if_pos hallow]
    · intro hallow
      rw [testAllowed, if_neg hallow]

/-- The empty text of a lone minus sign occurs in every name, so it turns away whatever is wanted
before it. A filter that is added later stands behind it. -/
theorem testAll_runs_cases_that_filters_select_behind_minus (compile : Case → Compilation) :
    let value := "a, b ,,-".toList
    let spelled : List Filter := [⟨true, ['a']⟩, ⟨true, ['b']⟩, ⟨false, []⟩]
    let first : Case := ⟨"g", "a", "g/a", [97], [97], some true, true⟩
    let second : Case := ⟨"g", "ba", "g/ba", [97], [97], some true, true⟩
    let r := [(⟨true, ['b']⟩ : Filter)].foldl addFilter { filters := spelled }
    Filter.ofVariable (some (Text.Utf8.encode value)) = .ok spelled ∧
      testAll compile r [first, second] =
        test compile { r with records := { skipped := [⟨first, ⟨"", .absent⟩⟩] } } second ∧
      ∃ added, Adds compile second added ∧ (testAll compile r [first, second]).records =
        { skipped := [⟨first, ⟨"", .absent⟩⟩] } ++ added := by
  intro value spelled first second r
  obtain ⟨items, spelled', -, -, hvariable, -, hrun⟩ :=
    testAll_runs_cases_that_filters_select value
  have hspelled : Filter.ofVariable (some (Text.Utf8.encode value)) = .ok spelled := by
    rw [Filter.ofVariable_encode]
    rfl
  have heq : spelled'.filterMap id = spelled := by
    rw [hspelled] at hvariable
    exact (Except.ok.inj hvariable).symm
  rw [heq] at hrun
  refine ⟨hspelled, ?_⟩
  have hfirst := (hrun [⟨true, ['b']⟩] {} compile [] [second] first).2 (by
    rw [← Filter.allow_iff_selects]
    decide)
  obtain ⟨hsecond, added, hadds, htest⟩ :=
    (hrun [⟨true, ['b']⟩] { skipped := [⟨first, ⟨"", .absent⟩⟩] } compile [] [] second).1
      (Filter.allow_iff_selects.mp (by decide))
  have hboth := hfirst.trans hsecond
  exact ⟨hboth, added, hadds, congrArg records (hboth.trans htest)⟩

end Runner

end StarMatch.Suite
