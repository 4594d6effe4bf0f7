import Mathlib.Data.List.TakeWhile
import StarMatch.Proofs.CommandLine.Arguments
import StarMatch.Proofs.Matcher.Text

/-!
# What a match run answers

All haystacks share one cache and a running answer, and the first refused search ends the run. What
is left of this in the output and the status is what each search says with a new cache: a written text
for every haystack in front of the first that is refused, and a status that is 2 if there is such a
haystack, 1 if some haystack does not match, and 0 otherwise.
-/

namespace StarMatch.CommandLine

namespace Invocation

variable {i j : Invocation} {m : Matcher} {settings : MatcherSettings}
  {p : Pattern UInt8} {text haystack : String} {haystacks : List String}

theorem searchAll_cons_of_refusesText (h : m.RefusesText haystack) (i : Invocation)
    (cache : MatcherCache) (all : Bool) (haystacks : List String) :
    ∃ failure, i.searchAll m cache all (haystack :: haystacks) = .failed failure := by
  obtain ⟨refusal, hrefused⟩ := h.exists_refusal cache
  refine ⟨⟨refusal.message, none⟩, ?_⟩
  rw [searchAll, hrefused]

theorem searchAll_cons_of_verdict {cache : MatcherCache} {verdict : Bool}
    (h : (m.search cache (Text.Utf8.encode haystack.toList)).verdict = .ok verdict)
    (i : Invocation) (all : Bool) (haystacks : List String) :
    i.searchAll m cache all (haystack :: haystacks) =
      (i.searchAll m (m.search cache (Text.Utf8.encode haystack.toList)).cache (all && verdict)
        haystacks).prepend (i.answerLine haystack verdict) := by
  rw [searchAll, h]

/-- An answer is printed for each haystack in front of the first that is refused, whatever the cache
holds. -/
theorem output_searchAll
    (hword : ∀ h ∈ haystacks,
      ((Text.Utf8.encode h.toList).length + 1) * (p.length + 1) ≤ wordMax)
    (i : Invocation) (cache : MatcherCache) (all : Bool) :
    (i.searchAll (.ofPattern settings p) cache all haystacks).output =
      (haystacks.takeWhile fun h => ¬ (Matcher.ofPattern settings p).RefusesText h).flatMap fun h =>
        i.answerLine h (decide (p.MatchesText h)) := by
  induction haystacks generalizing cache all with
  | nil => rfl
  | cons haystack haystacks ih =>
    obtain ⟨hfirst, hrest⟩ := List.forall_mem_cons.mp hword
    by_cases hrefuses : (Matcher.ofPattern settings p).RefusesText haystack
    · obtain ⟨failure, hfailed⟩ := searchAll_cons_of_refusesText hrefuses i cache all haystacks
      rw [hfailed, List.takeWhile_cons_of_neg (by simp [hrefuses])]
      rfl
    · have hverdict := Matcher.verdict_search_of_not_refusesText hfirst hrefuses cache
      rw [searchAll_cons_of_verdict hverdict, List.takeWhile_cons_of_pos (by simp [hrefuses]),
        List.flatMap_cons]
      exact congrArg _ (ih hrest _ _)

/-- A refused search decides the status, then a haystack that does not match, among those of the run
or before them. -/
theorem status_searchAll
    (hword : ∀ h ∈ haystacks,
      ((Text.Utf8.encode h.toList).length + 1) * (p.length + 1) ≤ wordMax)
    (i : Invocation) (cache : MatcherCache) (all : Bool) :
    (i.searchAll (.ofPattern settings p) cache all haystacks).status =
      if ∃ h ∈ haystacks, (Matcher.ofPattern settings p).RefusesText h then 2
      else if all = false ∨ ∃ h ∈ haystacks, ¬ p.MatchesText h then 1 else 0 := by
  induction haystacks generalizing cache all with
  | nil => cases all <;> rfl
  | cons haystack haystacks ih =>
    obtain ⟨hfirst, hrest⟩ := List.forall_mem_cons.mp hword
    by_cases hrefuses : (Matcher.ofPattern settings p).RefusesText haystack
    · obtain ⟨failure, hfailed⟩ := searchAll_cons_of_refusesText hrefuses i cache all haystacks
      rw [hfailed, if_pos ⟨haystack, List.mem_cons_self, hrefuses⟩]
      rfl
    · have hverdict := Matcher.verdict_search_of_not_refusesText hfirst hrefuses cache
      have hstatus := ih hrest ((Matcher.ofPattern settings p).search cache
        (Text.Utf8.encode haystack.toList)).cache (all && decide (p.MatchesText haystack))
      rw [searchAll_cons_of_verdict hverdict]
      refine hstatus.trans ?_
      simp only [List.mem_cons, exists_eq_or_imp, hrefuses, false_or, Bool.and_eq_false_iff,
        decide_eq_false_iff_not, or_assoc]

theorem readPattern_eq_error {e : PatternError}
    (h : Pattern.ofBytes i.reserved (Text.Utf8.encode text.toList) = .error e) :
    ∃ failure, i.readPattern text = .error failure := by
  rw [readPattern, h]
  exact ⟨_, rfl⟩

theorem readPattern_eq_ok (h : Pattern.ofBytes i.reserved (Text.Utf8.encode text.toList) = .ok p) :
    i.readPattern text = .ok p := by
  rw [readPattern, h]
  rfl

/-- The invocation gives the text of a pattern and at least one haystack, and a machine word counts
the cells of every search. -/
structure Asks (i : Invocation) (text : String) (haystacks : List String) : Prop where
  operands : i.operands = text :: haystacks
  haystacks_ne_nil : haystacks ≠ []
  cells : ∀ p, Pattern.ofBytes i.reserved (Text.Utf8.encode text.toList) = .ok p → ∀ h ∈ haystacks,
    ((Text.Utf8.encode h.toList).length + 1) * (p.length + 1) ≤ wordMax

theorem Asks.of_read (hread : Pattern.ofBytes i.reserved (Text.Utf8.encode text.toList) = .ok p)
    (hoperands : i.operands = text :: haystacks) (hhaystacks : haystacks ≠ [])
    (hcells : ∀ h ∈ haystacks,
      ((Text.Utf8.encode h.toList).length + 1) * (p.length + 1) ≤ wordMax) :
    i.Asks text haystacks := by
  refine ⟨hoperands, hhaystacks, ?_⟩
  intro q hq
  obtain rfl := Except.ok.inj (hread.symm.trans hq)
  exact hcells

/-- Invocations with the same operands and the same reserved symbols ask for the same searches. -/
theorem Asks.congr (h : i.Asks text haystacks) (hoperands : j.operands = i.operands)
    (hreserved : j.reserved = i.reserved) : j.Asks text haystacks := by
  refine ⟨hoperands.trans h.operands, h.haystacks_ne_nil, ?_⟩
  rw [hreserved]
  exact h.cells

/-- An invocation with a pattern that cannot be read prints nothing and fails. -/
theorem Asks.runMatch_of_unread (h : i.Asks text haystacks) {e : PatternError}
    (hread : Pattern.ofBytes i.reserved (Text.Utf8.encode text.toList) = .error e) :
    ∃ failure, i.runMatch = .failed failure := by
  obtain ⟨haystack, others, rfl⟩ := List.exists_cons_of_ne_nil h.haystacks_ne_nil
  obtain ⟨failure, hfailed⟩ := readPattern_eq_error hread
  refine ⟨failure, ?_⟩
  simp only [runMatch, h.operands, hfailed]

section Read

variable (h : i.Asks text haystacks)
  (hread : Pattern.ofBytes i.reserved (Text.Utf8.encode text.toList) = .ok p)

include h hread

theorem Asks.runMatch_of_read :
    i.runMatch = (i.searchAll (.ofPattern i.settings p) {} true haystacks).prepend
      (i.buildTable (.ofPattern i.settings p)) := by
  obtain ⟨haystack, others, rfl⟩ := List.exists_cons_of_ne_nil h.haystacks_ne_nil
  simp only [runMatch, h.operands, readPattern_eq_ok hread]

theorem Asks.output_runMatch :
    i.runMatch.output = i.buildTable (.ofPattern i.settings p) ++
      (haystacks.takeWhile fun h => ¬ (Matcher.ofPattern i.settings p).RefusesText h).flatMap fun h =>
        i.answerLine h (decide (p.MatchesText h)) := by
  rw [h.runMatch_of_read hread, ← output_searchAll (h.cells p hread) i {} true]
  rfl

theorem Asks.status_runMatch :
    i.runMatch.status =
      if ∃ h ∈ haystacks, (Matcher.ofPattern i.settings p).RefusesText h then 2
      else if ∃ h ∈ haystacks, ¬ p.MatchesText h then 1 else 0 := by
  rw [h.runMatch_of_read hread]
  refine (status_searchAll (h.cells p hread) i {} true).trans ?_
  simp only [Bool.true_eq_false, false_or]

/-- Where neither less nor more output is asked for, what is printed is an answer and its haystack. -/
theorem Asks.output_runMatch_of_plain (hquiet : i.quiet = false) (hverbose : i.verbose = false) :
    i.runMatch.output =
      (haystacks.takeWhile fun h => ¬ (Matcher.ofPattern i.settings p).RefusesText h).map fun h =>
        .text ((if p.MatchesText h then "yes" else "no") ++ "\t" ++ h ++ "\n") := by
  have hline : ∀ h : String, i.answerLine h (decide (p.MatchesText h)) =
      [.text ((if p.MatchesText h then "yes" else "no") ++ "\t" ++ h ++ "\n")] := by
    intro h
    simp [answerLine, hquiet, hverbose]
  rw [h.output_runMatch hread, buildTable, hverbose]
  simp only [hline, Bool.false_eq_true, if_false, List.nil_append]
  rw [← List.map_eq_flatMap]

/-- Without a limit no search is refused. -/
theorem Asks.not_refusesText (hlimit : i.settings.tableSizeLimit = none) :
    ∀ h ∈ haystacks, ¬ (Matcher.ofPattern i.settings p).RefusesText h := by
  intro haystack hmem
  exact Matcher.not_refusesText_of_unlimited hlimit (h.cells p hread haystack hmem)

theorem Asks.output_runMatch_of_unlimited (hlimit : i.settings.tableSizeLimit = none) :
    i.runMatch.output = i.buildTable (.ofPattern i.settings p) ++
      haystacks.flatMap fun h => i.answerLine h (decide (p.MatchesText h)) := by
  have hall : (haystacks.takeWhile fun h => ¬ (Matcher.ofPattern i.settings p).RefusesText h) =
      haystacks := by
    rw [List.takeWhile_eq_self_iff]
    intro haystack hmem
    exact decide_eq_true (h.not_refusesText hread hlimit haystack hmem)
  rw [h.output_runMatch hread, hall]

theorem Asks.status_runMatch_of_unlimited (hlimit : i.settings.tableSizeLimit = none) :
    i.runMatch.status = if ∃ h ∈ haystacks, ¬ p.MatchesText h then 1 else 0 := by
  have hnone : ¬ ∃ h ∈ haystacks, (Matcher.ofPattern i.settings p).RefusesText h := by
    rintro ⟨haystack, hmem, hrefuses⟩
    exact h.not_refusesText hread hlimit haystack hmem hrefuses
  rw [h.status_runMatch hread, if_neg hnone]

end Read

/-- How much output is asked for has no part in the status. -/
theorem Asks.status_runMatch_of_sameBut (h : i.Asks text haystacks)
    (hsame : SameBut [.quiet, .verbose] j i) : j.runMatch.status = i.runMatch.status := by
  have hreserved : j.reserved = i.reserved := hsame.reserved_eq (by decide) (by decide)
  have hsettings : j.settings = i.settings := hsame.settings_eq (by decide) (by decide) (by decide)
  have hj : j.Asks text haystacks := h.congr hsame.operands hreserved
  cases hread : Pattern.ofBytes i.reserved (Text.Utf8.encode text.toList) with
  | error e =>
    obtain ⟨failure, hfailed⟩ := h.runMatch_of_unread hread
    obtain ⟨failure', hfailed'⟩ := hj.runMatch_of_unread (by rwa [hreserved])
    rw [hfailed, hfailed']
    rfl
  | ok p =>
    rw [h.status_runMatch hread, hj.status_runMatch (by rwa [hreserved]), hsettings]

/-- Without a limit, the engine and the prefilter have no part in the answers: only the table printed
in front of them can differ, where more output is asked for. -/
theorem Asks.runMatch_of_sameBut_engine (h : i.Asks text haystacks)
    (hsame : SameBut [.engine, .noPrefilter] j i) (hlimit : i.settings.tableSizeLimit = none) :
    j.runMatch.status = i.runMatch.status ∧
      (i.verbose = false → j.runMatch.output = i.runMatch.output) ∧
      ∀ p, Pattern.ofBytes i.reserved (Text.Utf8.encode text.toList) = .ok p →
        ∃ lines, i.runMatch.output = i.buildTable (.ofPattern i.settings p) ++ lines ∧
          j.runMatch.output = j.buildTable (.ofPattern j.settings p) ++ lines := by
  have hreserved : j.reserved = i.reserved := hsame.reserved_eq (by decide) (by decide)
  have hlimit' : j.settings.tableSizeLimit = none := by
    rw [MatcherSettings.tableSizeLimit, hsame.limit (by decide)]
    exact hlimit
  have hverbose : j.verbose = i.verbose := hsame.verbose (by decide)
  have hline : j.answerLine = i.answerLine := by
    funext haystack verdict
    rw [answerLine, answerLine, hsame.quiet (by decide), hverbose]
  have hj : j.Asks text haystacks := h.congr hsame.operands hreserved
  cases hread : Pattern.ofBytes i.reserved (Text.Utf8.encode text.toList) with
  | error e =>
    obtain ⟨failure, hfailed⟩ := h.runMatch_of_unread hread
    obtain ⟨failure', hfailed'⟩ := hj.runMatch_of_unread (by rwa [hreserved])
    rw [hfailed, hfailed']
    exact ⟨rfl, fun _ => rfl, nofun⟩
  | ok p =>
    have hread' : Pattern.ofBytes j.reserved (Text.Utf8.encode text.toList) = .ok p := by
      rwa [hreserved]
    have hout := h.output_runMatch_of_unlimited hread hlimit
    have hout' := hj.output_runMatch_of_unlimited hread' hlimit'
    rw [hline] at hout'
    refine ⟨?_, ?_, ?_⟩
    · rw [h.status_runMatch_of_unlimited hread hlimit, hj.status_runMatch_of_unlimited hread' hlimit']
    · intro hplain
      rw [hout, hout', buildTable, buildTable, hverbose, hplain]
      rfl
    · intro q hq
      obtain rfl := Except.ok.inj hq
      exact ⟨_, hout, hout'⟩

end Invocation

/-- The status of an accepted match run is 2 if its pattern cannot be read or some search is refused
with a new cache, else 1 if some haystack does not match, else 0. Its plain output is one written text
for each haystack in front of the first that is refused: the answer, a tab, the haystack as it is, and a
line break. Asking for less or more output leaves the status as it is, and without a limit the engine
and the prefilter leave the status and the answers. -/
theorem runProgram_answers_haystacks {argv : List (List UInt8)} {s : Scan} {i : Invocation}
    {text : String} {haystacks : List String} (hscan : matchScan? argv = some s)
    (hi : Invocation.ofScan .search s = .ok i) (hasks : i.Asks text haystacks) :
    (∀ e, Pattern.ofBytes i.reserved (Text.Utf8.encode text.toList) = .error e →
      (runProgram argv).status = 2 ∧ (runProgram argv).output = []) ∧
    (∀ p, Pattern.ofBytes i.reserved (Text.Utf8.encode text.toList) = .ok p →
      let m := Matcher.ofPattern i.settings p
      (runProgram argv).status =
        (if ∃ h ∈ haystacks, m.RefusesText h then 2
        else if ∃ h ∈ haystacks, ¬ p.MatchesText h then 1 else 0) ∧
      (i.quiet = false → i.verbose = false → (runProgram argv).output =
        (haystacks.takeWhile fun h => ¬ m.RefusesText h).map fun h =>
          .text ((if p.MatchesText h then "yes" else "no") ++ "\t" ++ h ++ "\n"))) ∧
    (∀ argv' s', matchScan? argv' = some s' → s'.stop? = none →
      s'.items.filter (!·.isAbout [.quiet, .verbose]) =
        s.items.filter (!·.isAbout [.quiet, .verbose]) →
      (runProgram argv').status = (runProgram argv).status) ∧
    (i.settings.tableSizeLimit = none → ∀ argv' s' i', matchScan? argv' = some s' →
      Invocation.ofScan .search s' = .ok i' →
      s'.items.filter (!·.isAbout [.engine, .noPrefilter]) =
        s.items.filter (!·.isAbout [.engine, .noPrefilter]) →
      (runProgram argv').status = (runProgram argv).status ∧
      (i.verbose = false → (runProgram argv').output = (runProgram argv).output) ∧
      ∀ p, Pattern.ofBytes i.reserved (Text.Utf8.encode text.toList) = .ok p →
        ∃ lines, (runProgram argv).output = i.buildTable (.ofPattern i.settings p) ++ lines ∧
          (runProgram argv').output = i'.buildTable (.ofPattern i'.settings p) ++ lines) := by
  have hrun : runProgram argv = i.runMatch := by
    rw [runProgram_of_matchScan? hscan, hi]
  rw [hrun]
  refine ⟨?_, ?_, ?_, ?_⟩
  · intro e hread
    obtain ⟨failure, hfailed⟩ := hasks.runMatch_of_unread hread
    rw [hfailed]
    exact ⟨rfl, rfl⟩
  · intro p hread m
    exact ⟨hasks.status_runMatch hread, hasks.output_runMatch_of_plain hread⟩
  · intro argv' s' hscan' hstop hitems
    obtain ⟨i', hi', hsame⟩ := Invocation.exists_ofScan_sameBut hi hstop hitems
      fun item _ habout => Item.readable_of_isAbout (by decide) habout
    rw [runProgram_of_matchScan? hscan', hi']
    exact hasks.status_runMatch_of_sameBut hsame
  · intro hlimit argv' s' i' hscan' hi' hitems
    have hsame := Invocation.sameBut_of_ofScan hi hi' hitems
    rw [runProgram_of_matchScan? hscan', hi']
    exact hasks.runMatch_of_sameBut_engine hsame hlimit

/-- The third of three searches is refused, with and without output; and two searches without a limit
give the same answers by the engine that is chosen automatically and by the table engine without the
prefilter. -/
theorem runProgram_answers_haystacks_third_refused :
    let bytes (texts : List String) := texts.map fun text => Text.Utf8.encode text.toList
    let limited := bytes
      ["match", "--engine=table", "--table-size-limit", "12", "a*.", "aa", "", "aaaaaa"]
    let silent := bytes
      ["match", "--engine=table", "--quiet", "--table-size-limit", "12", "a*.", "aa", "", "aaaaaa"]
    let free := bytes ["match", "a*.", "aa", ""]
    let table := bytes ["match", "--no-prefilter", "a*.", "--engine", "table", "aa", ""]
    (runProgram limited).status = 2 ∧ (runProgram silent).status = 2 ∧
      (runProgram limited).output = [.text "yes\taa\n", .text "no\t\n"] ∧
      (runProgram free).status = 1 ∧ (runProgram table).status = 1 ∧
      (runProgram table).output = (runProgram free).output := by
  intro bytes limited silent free table
  let items (texts : List String) := (bytes texts).map Item.operand
  let engine : Item := .setting .engine (Text.Utf8.encode "table".toList)
  let limit : Item := .setting .tableSizeLimit (Text.Utf8.encode "12".toList)
  let p : Pattern UInt8 := ⟨[.lit 97, .star, .any], rfl⟩
  have hread : Pattern.ofBytes {} (Text.Utf8.encode "a*.".toList) = .ok p := rfl
  have hlimited : Invocation.Asks
      { settings := { engine? := some .table, tableSizeLimit? := some (some 12) }
        operands := ["a*.", "aa", "", "aaaaaa"] } "a*." ["aa", "", "aaaaaa"] :=
    .of_read hread rfl (by decide) (by decide)
  have hfree : Invocation.Asks { operands := ["a*.", "aa", ""] } "a*." ["aa", ""] :=
    .of_read hread rfl (by decide) (by decide)
  have hscan : matchScan? limited =
      some { items := engine :: limit :: items ["a*.", "aa", "", "aaaaaa"] } := by decide +kernel
  have hscan' : matchScan? free = some { items := items ["a*.", "aa", ""] } := by decide +kernel
  obtain ⟨-, hanswers, hsilent, -⟩ :=
    runProgram_answers_haystacks hscan (by decide +kernel) hlimited
  obtain ⟨-, hanswers', -, hengine⟩ :=
    runProgram_answers_haystacks hscan' (by decide +kernel) hfree
  obtain ⟨hstatus, houtput⟩ := hanswers p hread
  obtain ⟨hstatus', -⟩ := hanswers' p hread
  have hlimited : (runProgram limited).status = 2 := hstatus.trans (by decide +kernel)
  have hfree : (runProgram free).status = 1 := hstatus'.trans (by decide +kernel)
  have hsilent := hsilent silent
    { items := engine :: .toggle .quiet :: limit :: items ["a*.", "aa", "", "aaaaaa"] }
    (by decide +kernel) rfl (by decide +kernel)
  obtain ⟨hsame, hlines, -⟩ := hengine rfl table
    { items := .toggle .noPrefilter :: items ["a*."] ++ engine :: items ["aa", ""] }
    { settings := { engine? := some .table, prefilter? := some false }
      operands := ["a*.", "aa", ""] }
    (by decide +kernel) (by decide +kernel) (by decide +kernel)
  exact ⟨hlimited, hsilent.trans hlimited, (houtput rfl rfl).trans (by decide +kernel), hfree,
    hsame.trans hfree, hlines rfl⟩

end StarMatch.CommandLine
