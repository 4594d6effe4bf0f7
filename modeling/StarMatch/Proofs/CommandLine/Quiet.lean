import StarMatch.Proofs.CommandLine.Reordering

/-!
# Asking for less output

How much output is asked for has no part in how a match run ends, only in what it prints. Where less is
asked for, the run prints no answers, whatever they are and whether or not a search is refused; the
table about the compiled pattern is left, which is printed where more output is asked for as well.
-/

namespace StarMatch.CommandLine

namespace Invocation

variable {i j : Invocation} {m : Matcher}

/-- The matcher that is compiled, if there is a haystack and the pattern can be read. -/
def compiled? (i : Invocation) : Option Matcher :=
  match i.operands with
  | text :: _ :: _ => (i.readPattern text).toOption.map (Matcher.ofPattern i.settings)
  | _ => none

/-- The lines about haystacks have no part in how the searches end. -/
theorem result_searchAll (i j : Invocation) (m : Matcher) (cache : MatcherCache) (all : Bool)
    (haystacks : List String) :
    (i.searchAll m cache all haystacks).result = (j.searchAll m cache all haystacks).result := by
  induction haystacks generalizing cache all with
  | nil => rfl
  | cons haystack haystacks ih =>
    rw [searchAll, searchAll]
    cases (m.search cache (Text.Utf8.encode haystack.toList)).verdict with
    | error refusal => rfl
    | ok isMatch => exact ih _ _

/-- Invocations that differ only in how much output they ask for end alike. -/
theorem SameBut.result_runMatch (h : SameBut [.quiet, .verbose] i j) :
    i.runMatch.result = j.runMatch.result := by
  have hreserved : i.reserved = j.reserved := h.reserved_eq (by decide) (by decide)
  have hsettings : i.settings = j.settings := h.settings_eq (by decide) (by decide) (by decide)
  rw [runMatch, runMatch, h.operands]
  match j.operands with
  | [] => rfl
  | [_] => rfl
  | text :: haystack :: haystacks =>
    have hread : i.readPattern text = j.readPattern text := by rw [readPattern, readPattern, hreserved]
    simp only [hread, hsettings]
    cases j.readPattern text with
    | error e => rfl
    | ok p => exact result_searchAll i j _ _ _ _

section Quiet

variable (hquiet : i.quiet = true)

include hquiet

/-- No line is printed, whatever the searches come to. -/
theorem output_searchAll_of_quiet (m : Matcher) (cache : MatcherCache) (all : Bool)
    (haystacks : List String) : (i.searchAll m cache all haystacks).output = [] := by
  induction haystacks generalizing cache all with
  | nil => rfl
  | cons haystack haystacks ih =>
    rw [searchAll]
    cases (m.search cache (Text.Utf8.encode haystack.toList)).verdict with
    | error refusal => rfl
    | ok isMatch =>
      have hline : i.answerLine haystack isMatch = [] := by rw [answerLine, hquiet, if_pos rfl]
      simp only [hline]
      exact ih _ _

/-- The table about the compiled pattern is printed, and nothing else. -/
theorem output_runMatch_of_quiet : i.runMatch.output = i.compiled?.elim [] i.buildTable := by
  rw [runMatch, compiled?]
  match i.operands with
  | [] => rfl
  | [_] => rfl
  | text :: haystack :: haystacks =>
    cases hread : i.readPattern text with
    | error e => simp only [hread]; rfl
    | ok p =>
      simp only [hread, Outcome.prepend, output_searchAll_of_quiet hquiet, List.append_nil]
      rfl

end Quiet

end Invocation

/-- An accepted match run with the flag for less output prints nothing, whatever it searches and
however the searches end, unless the flag for more output is there as well; then it prints the table
about the compiled pattern, if one is compiled. It ends as every run does whose arguments differ only in
how much output they ask for. -/
theorem quiet_run_prints_build_table_alone {argv : List (List UInt8)} {s : Scan} {i : Invocation}
    (hscan : matchScan? argv = some s) (hi : Invocation.ofScan .search s = .ok i)
    (hquiet : .toggle .quiet ∈ s.items) :
    (.toggle .verbose ∉ s.items → (runProgram argv).output = []) ∧
    (.toggle .verbose ∈ s.items → (runProgram argv).output = i.compiled?.elim [] fun m =>
      table [("build time", .duration), ("strategy", .ofName m.strategy.kind.name)]) ∧
    ∀ argv' s', matchScan? argv' = some s' → s'.stop? = none →
      s'.items.filter (!·.isAbout [.quiet, .verbose]) =
        s.items.filter (!·.isAbout [.quiet, .verbose]) →
      (runProgram argv').result = (runProgram argv).result := by
  have hcomes := Invocation.comesFrom_of_actAll (Invocation.ofScan_eq_ok_iff.mp hi).2
  have houtput := Invocation.output_runMatch_of_quiet (hcomes.quiet.mpr hquiet)
  have hrun : runProgram argv = i.runMatch := by
    rw [runProgram_of_matchScan? hscan, hi]
  rw [hrun, houtput]
  refine ⟨?_, ?_, ?_⟩
  · intro hverbose
    have hoff : i.verbose = false := Bool.eq_false_iff.mpr (mt hcomes.verbose.mp hverbose)
    have htable : i.buildTable = fun _ => [] := by
      funext m
      rw [Invocation.buildTable, hoff]
      rfl
    rw [htable]
    cases i.compiled? <;> rfl
  · intro hverbose
    have htable : i.buildTable = fun m =>
        table [("build time", .duration), ("strategy", .ofName m.strategy.kind.name)] := by
      funext m
      rw [Invocation.buildTable, hcomes.verbose.mpr hverbose, if_pos rfl]
    rw [htable]
  · intro argv' s' hscan' hstop hitems
    obtain ⟨i', hi', hsame⟩ := Invocation.exists_ofScan_sameBut hi hstop hitems
      fun item _ habout => Item.readable_of_isAbout (by decide) habout
    rw [runProgram_of_matchScan? hscan', hi']
    exact hsame.result_runMatch

/-- A run whose second search is refused prints nothing and fails, and the same run prints its table if
more output is asked for behind the haystacks. -/
theorem quiet_run_prints_build_table_alone_refused :
    let bytes (texts : List String) := texts.map fun text => Text.Utf8.encode text.toList
    let silent := bytes ["match", "-qe", "table", "--table-size-limit", "12", "a*.", "aa", "aaaaaa"]
    let both := bytes
      ["match", "--engine=table", "--table-size-limit", "12", "a*.", "aa", "aaaaaa", "--quiet",
        "--verbose"]
    (runProgram silent).output = [] ∧ (runProgram silent).status = 2 ∧
      (runProgram both).output =
        table [("build time", .duration), ("strategy", .ofName "table")] ∧
      (runProgram both).result = (runProgram silent).result := by
  intro bytes silent both
  let engine : Item := .setting .engine (Text.Utf8.encode "table".toList)
  let limit : Item := .setting .tableSizeLimit (Text.Utf8.encode "12".toList)
  let operands := (bytes ["a*.", "aa", "aaaaaa"]).map Item.operand
  have hscan : matchScan? silent =
      some { items := .toggle .quiet :: engine :: limit :: operands } := by decide +kernel
  have hscan' : matchScan? both =
      some { items := engine :: limit :: operands ++ [.toggle .quiet, .toggle .verbose] } := by
    decide +kernel
  let settings : MatcherSettings := { engine? := some .table, tableSizeLimit? := some (some 12) }
  have hi : Invocation.ofScan .search { items := .toggle .quiet :: engine :: limit :: operands } =
      .ok { quiet := true, settings, operands := ["a*.", "aa", "aaaaaa"] } := by decide +kernel
  have hi' : Invocation.ofScan .search
      { items := engine :: limit :: operands ++ [.toggle .quiet, .toggle .verbose] } =
      .ok { quiet := true, verbose := true, settings, operands := ["a*.", "aa", "aaaaaa"] } := by
    decide +kernel
  obtain ⟨hsilent, -, hends⟩ := quiet_run_prints_build_table_alone hscan hi (by decide +kernel)
  obtain ⟨-, hboth, -⟩ := quiet_run_prints_build_table_alone hscan' hi' (by decide +kernel)
  exact ⟨hsilent (by decide +kernel), by decide +kernel,
    (hboth (by decide +kernel)).trans (by decide +kernel), hends _ _ hscan' rfl (by decide +kernel)⟩

/-- Less output and more output together print a table, though the description of the flag for less
output promises that nothing is printed. -/
theorem quiet_and_verbose_print_build_table :
    let argv := ["match", "-q", "--verbose", "a", "a"].map fun text => Text.Utf8.encode text.toList
    (matchScan? argv).any (fun s => s.stop? = none ∧ .toggle .quiet ∈ s.items) ∧
      (runProgram argv).status = 0 ∧
      (runProgram argv).output =
        [.text "build time:  ", .duration, .text "\n", .text "  strategy:  ", .text "\"literal\"",
          .text "\n"] := by
  decide +kernel

end StarMatch.CommandLine
