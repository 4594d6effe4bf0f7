import StarMatch.Proofs.CommandLine.Arguments
import StarMatch.Proofs.CommandLine.Phrases
import StarMatch.Proofs.Text.Chunks

/-!
# The order of phrases

What a command line asks for is made of the flags without a value that stand in it, the last value of
each other flag, and the operands in their order. So phrases may change places as long as the operands
stay in order, and so do the values of each flag.
-/

namespace StarMatch.CommandLine

/-- The value that the item sets the flag to. -/
def Item.value? (f : Flag) : Item → Option (List UInt8)
  | .setting g value => if g = f then some value else none
  | _ => none

/-- The bytes of an item that is an operand. -/
def Item.operand? : Item → Option (List UInt8)
  | .operand value => some value
  | _ => none

theorem Item.operand?_eq_some_iff {item : Item} {value : List UInt8} :
    item.operand? = some value ↔ item = .operand value := by
  cases item <;> simp [operand?]

/-- The values that items set a flag to, from left to right. -/
def valuesOf (f : Flag) (items : List Item) : List (List UInt8) :=
  items.filterMap (Item.value? f)

/-- The operands among items, from left to right. -/
def operandsOf (items : List Item) : List (List UInt8) :=
  items.filterMap Item.operand?

/-- The last value that items set a flag to. -/
def lastValue? (f : Flag) (items : List Item) : Option (List UInt8) :=
  (valuesOf f items).getLast?

section Items

variable (f g : Flag) (value : List UInt8) (items : List Item)

@[simp] theorem lastValue?_nil : lastValue? f [] = none := rfl

@[simp] theorem lastValue?_concat_toggle : lastValue? f (items ++ [.toggle g]) = lastValue? f items := by
  simp [lastValue?, valuesOf, Item.value?]

@[simp] theorem lastValue?_concat_operand :
    lastValue? f (items ++ [.operand value]) = lastValue? f items := by
  simp [lastValue?, valuesOf, Item.value?]

@[simp] theorem lastValue?_concat_setting :
    lastValue? f (items ++ [.setting g value]) = if g = f then some value else lastValue? f items := by
  by_cases h : g = f <;> simp [lastValue?, valuesOf, Item.value?, h]

@[simp] theorem operandsOf_nil : operandsOf [] = [] := rfl

@[simp] theorem operandsOf_concat_toggle : operandsOf (items ++ [.toggle g]) = operandsOf items := by
  simp [operandsOf, Item.operand?]

@[simp] theorem operandsOf_concat_setting :
    operandsOf (items ++ [.setting g value]) = operandsOf items := by
  simp [operandsOf, Item.operand?]

@[simp] theorem operandsOf_concat_operand :
    operandsOf (items ++ [.operand value]) = operandsOf items ++ [value] := by
  simp [operandsOf, Item.operand?]

end Items

namespace Invocation

/-- The invocation is what the items say: a flag without a value holds if it is among them, a knob is
set to the last value of its flag, and the operands are those of the items. -/
structure ComesFrom (i : Invocation) (items : List Item) : Prop where
  quiet : i.quiet = true ↔ .toggle .quiet ∈ items
  verbose : i.verbose = true ↔ .toggle .verbose ∈ items
  prefilter : i.settings.prefilter? = if .toggle .noPrefilter ∈ items then some false else none
  wildcard : (lastValue? .wildcard items).map (Flag.readSymbol .wildcard) =
    i.reserved.wildcard?.map .ok
  repetition : (lastValue? .repetition items).map (Flag.readSymbol .repetition) =
    i.reserved.repetition?.map .ok
  engine : (lastValue? .engine items).map (Flag.readEngine .engine) = i.settings.engine?.map .ok
  limit : (lastValue? .tableSizeLimit items).map (Flag.readLimit .tableSizeLimit) =
    i.settings.tableSizeLimit?.map .ok
  operands : (operandsOf items).map Text.Utf8.decode? = i.operands.map fun text => some text.toList

variable {c : Command} {i j : Invocation} {items items' : List Item} {item : Item}

theorem comesFrom_nil : ComesFrom {} [] := by
  constructor <;> simp

theorem ComesFrom.toggle (h : i.ComesFrom items) (f : Flag) :
    (i.toggle f).ComesFrom (items ++ [.toggle f]) := by
  obtain ⟨hquiet, hverbose, hprefilter, hwildcard, hrepetition, hengine, hlimit, hoperands⟩ := h
  -- About every part but that of its flag, the new item says nothing.
  cases f <;> constructor <;> simp_all [Invocation.toggle]

theorem ComesFrom.set (h : i.ComesFrom items) {f : Flag} {value : List UInt8}
    (hset : i.set f value = .ok j) : j.ComesFrom (items ++ [.setting f value]) := by
  obtain ⟨hquiet, hverbose, hprefilter, hwildcard, hrepetition, hengine, hlimit, hoperands⟩ := h
  cases f with
  | wildcard | repetition | engine | tableSizeLimit =>
    obtain ⟨x, hread, rfl⟩ := exists_read_of_map_eq_ok hset
    constructor <;> simp_all
  | quiet | verbose | noPrefilter =>
    obtain rfl := Except.ok.inj hset
    constructor <;> simp_all

theorem addOperand_eq_ok_iff {value : List UInt8} : i.addOperand c value = .ok j ↔
    (c = .search ∨ i.operands = []) ∧ ∃ cs, Text.Utf8.decode? value = some cs ∧
      { i with operands := i.operands ++ [String.ofList cs] } = j := by
  unfold addOperand
  by_cases hroom : c = .search ∨ i.operands = []
  · rw [if_neg (fun honly => hroom.elim honly.1 honly.2)]
    cases Text.Utf8.decode? value <;> simp [hroom]
  · rw [if_pos (not_or.mp hroom)]
    simp [hroom]

theorem ComesFrom.addOperand (h : i.ComesFrom items) {value : List UInt8}
    (hadd : i.addOperand c value = .ok j) : j.ComesFrom (items ++ [.operand value]) := by
  obtain ⟨hquiet, hverbose, hprefilter, hwildcard, hrepetition, hengine, hlimit, hoperands⟩ := h
  obtain ⟨-, cs, hdecode, rfl⟩ := addOperand_eq_ok_iff.mp hadd
  constructor <;> simp_all

/-- Acting upon one more item keeps the invocation what the items say. -/
theorem ComesFrom.act (h : i.ComesFrom items) (hact : i.act c item = .ok j) :
    j.ComesFrom (items ++ [item]) := by
  cases item with
  | toggle f =>
    obtain rfl := Except.ok.inj hact
    exact h.toggle f
  | setting f value => exact h.set hact
  | operand value => exact h.addOperand hact

theorem ComesFrom.actAll (h : i.ComesFrom items) (hacted : Invocation.actAll c i items' = .ok j) :
    j.ComesFrom (items ++ items') := by
  induction items' generalizing i items with
  | nil =>
    obtain rfl := Except.ok.inj hacted
    rwa [List.append_nil]
  | cons item items' ih =>
    obtain ⟨next, hact, hnext⟩ := actAll_cons_eq_ok_iff.mp hacted
    rw [List.append_cons]
    exact ih (h.act hact) hnext

theorem eq_of_map_ok_eq {α : Type} {knob? knob?' : Option α}
    (h : knob?.map (.ok : α → Except Failure α) = knob?'.map .ok) : knob? = knob?' :=
  (Option.map_inj_right fun _ _ => Except.ok.inj).mp h

/-- Items say one invocation at most. -/
theorem ComesFrom.eq (h : i.ComesFrom items) (h' : j.ComesFrom items) : i = j := by
  have htexts := h.operands.symm.trans h'.operands
  have hsame : SameBut [] i j :=
    { quiet := fun _ => Bool.eq_iff_iff.mpr (h.quiet.trans h'.quiet.symm)
      verbose := fun _ => Bool.eq_iff_iff.mpr (h.verbose.trans h'.verbose.symm)
      prefilter := fun _ => h.prefilter.trans h'.prefilter.symm
      wildcard := fun _ => eq_of_map_ok_eq (h.wildcard.symm.trans h'.wildcard)
      repetition := fun _ => eq_of_map_ok_eq (h.repetition.symm.trans h'.repetition)
      engine := fun _ => eq_of_map_ok_eq (h.engine.symm.trans h'.engine)
      limit := fun _ => eq_of_map_ok_eq (h.limit.symm.trans h'.limit)
      operands := (List.map_inj_right fun _ _ heq => String.toList_inj.mp (Option.some.inj heq)).mp
        htexts }
  exact hsame.eq_of_nil

/-- Items about flags leave the operands. -/
theorem exists_act_of_operand?_eq_none (hoperand : item.operand? = none) (hread : item.Readable c)
    (i : Invocation) : ∃ j, i.act c item = .ok j ∧ j.operands = i.operands := by
  have habout : item.isAbout item.flag?.toList = true := by
    cases item with
    | toggle f | setting f value => simp [Item.flag?]
    | operand value => cases hoperand
  obtain ⟨j, hact, hsame⟩ := exists_act_sameBut habout hread i
  exact ⟨j, hact, hsame.operands⟩

/-- Items that can each be read can be acted upon together, if the command has room for their
operands. -/
theorem exists_actAll (hread : ∀ item ∈ items, item.Readable c)
    (hroom : c = .search ∨ i.operands.length + (operandsOf items).length ≤ 1) :
    ∃ j, Invocation.actAll c i items = .ok j := by
  induction items generalizing i with
  | nil => exact ⟨i, rfl⟩
  | cons item items ih =>
    obtain ⟨hitem, hitems⟩ := List.forall_mem_cons.mp hread
    cases hoperand : item.operand? with
    | none =>
      obtain ⟨next, hact, hsame⟩ := exists_act_of_operand?_eq_none hoperand hitem i
      rw [operandsOf, List.filterMap_cons_none hoperand, ← operandsOf, ← hsame] at hroom
      obtain ⟨j, hacted⟩ := ih hitems hroom
      exact ⟨j, actAll_cons_eq_ok_iff.mpr ⟨next, hact, hacted⟩⟩
    | some value =>
      obtain rfl := Item.operand?_eq_some_iff.mp hoperand
      obtain ⟨i', k, hadded⟩ := hitem
      obtain ⟨-, cs, hdecode, -⟩ := addOperand_eq_ok_iff.mp hadded
      rw [operandsOf, List.filterMap_cons_some hoperand, ← operandsOf, List.length_cons] at hroom
      have hnone : c = .search ∨ i.operands = [] := by
        refine hroom.imp_right fun hlength => List.eq_nil_of_length_eq_zero ?_
        omega
      obtain ⟨j, hacted⟩ := @ih { i with operands := i.operands ++ [String.ofList cs] } hitems (by
        refine hroom.imp_right fun hlength => ?_
        rw [List.length_append, List.length_singleton]
        omega)
      exact ⟨j, actAll_cons_eq_ok_iff.mpr
        ⟨_, addOperand_eq_ok_iff.mpr ⟨hnone, cs, hdecode, rfl⟩, hacted⟩⟩

/-- A command that shows something has acted upon one operand at most. -/
theorem length_operands_le_of_actAll (hroom : c = .search ∨ i.operands.length ≤ 1)
    (hacted : Invocation.actAll c i items = .ok j) : c = .search ∨ j.operands.length ≤ 1 := by
  induction items generalizing i with
  | nil =>
    obtain rfl := Except.ok.inj hacted
    exact hroom
  | cons item items ih =>
    obtain ⟨next, hact, hnext⟩ := actAll_cons_eq_ok_iff.mp hacted
    refine ih ?_ hnext
    cases hoperand : item.operand? with
    | none =>
      obtain ⟨k, hk, hsame⟩ := exists_act_of_operand?_eq_none hoperand ⟨i, next, hact⟩ i
      obtain rfl := Except.ok.inj (hact.symm.trans hk)
      rwa [hsame]
    | some value =>
      obtain rfl := Item.operand?_eq_some_iff.mp hoperand
      obtain ⟨hnone, cs, -, rfl⟩ := addOperand_eq_ok_iff.mp hact
      refine hnone.imp_right fun hnil => ?_
      simp [hnil]

theorem comesFrom_of_actAll (hacted : Invocation.actAll c {} items = .ok i) : i.ComesFrom items :=
  comesFrom_nil.actAll hacted

/-- What items say about an invocation is which they are, and the order of operands and of values of
the same flag. -/
theorem ComesFrom.congr (h : i.ComesFrom items) (hmem : ∀ item, item ∈ items' ↔ item ∈ items)
    (hoperands : operandsOf items' = operandsOf items)
    (hvalues : ∀ f, valuesOf f items' = valuesOf f items) : i.ComesFrom items' := by
  obtain ⟨hquiet, hverbose, hprefilter, hwildcard, hrepetition, hengine, hlimit, htexts⟩ := h
  constructor <;> simp_all only [lastValue?]

/-- Items can be acted upon in another order as well, with the same result, if operands stay in order
and so do the values of each flag. -/
theorem actAll_of_perm (hacted : Invocation.actAll c {} items = .ok i) (hperm : items'.Perm items)
    (hoperands : operandsOf items' = operandsOf items)
    (hvalues : ∀ f, valuesOf f items' = valuesOf f items) :
    Invocation.actAll c {} items' = .ok i := by
  have hcomes := comesFrom_of_actAll hacted
  have hlength : (operandsOf items').length = i.operands.length := by
    simpa [hoperands] using congrArg List.length hcomes.operands
  have hroom : c = .search ∨ ({} : Invocation).operands.length + (operandsOf items').length ≤ 1 := by
    rw [hlength, List.length_nil, Nat.zero_add]
    exact length_operands_le_of_actAll (.inr (by simp)) hacted
  have hread : ∀ item ∈ items', item.Readable c := by
    intro item hitem
    exact readable_of_actAll hacted item (hperm.mem_iff.mp hitem)
  -- The other order leads somewhere, and what its items say is said by the first order too.
  obtain ⟨j, hj⟩ := exists_actAll hread hroom
  have hsame := hcomes.congr (fun _ => hperm.mem_iff) hoperands hvalues
  rw [hj, hsame.eq (comesFrom_of_actAll hj)]

end Invocation

/-- The arguments that name a command. -/
def Command.words : Command → List (List UInt8)
  | .search => [Text.Utf8.encode "match".toList]
  | .showPattern => [Text.Utf8.encode "debug".toList, Text.Utf8.encode "pattern".toList]
  | .showMatcher => [Text.Utf8.encode "debug".toList, Text.Utf8.encode "regex".toList]

theorem commandWord_cons {word : String}
    (hread : (readArgument [] (Text.Utf8.encode word.toList)).ending = .complete) (usage : String)
    (args : List (List UInt8)) :
    commandWord usage false (Text.Utf8.encode word.toList :: args) = .ok (word, false, args) := by
  simp [commandWord, hread, Text.Utf8.decode?_encode]

theorem runProgram_words (c : Command) (args : List (List UInt8)) :
    runProgram (c.words ++ args) = c.run false args := by
  have hmatch := @commandWord_cons "match" rfl
  have hdebug := @commandWord_cons "debug" rfl
  have hpattern := @commandWord_cons "pattern" rfl
  have hregex := @commandWord_cons "regex" rfl
  cases c with
  | search => simp only [Command.words, List.cons_append, List.nil_append, runProgram, hmatch]
  | showPattern =>
    simp only [Command.words, List.cons_append, List.nil_append, runProgram, hdebug, runDebug, hpattern]
  | showMatcher =>
    simp only [Command.words, List.cons_append, List.nil_append, runProgram, hdebug, runDebug, hregex]

theorem runProgram_of_accepted {c : Command} {args : List (List UInt8)} {i : Invocation}
    (haccepted : Invocation.ofScan c (scan c.flags args) = .ok i) :
    runProgram (c.words ++ args) = i.runAs c := by
  rw [runProgram_words, Command.run, scanFor, if_neg Bool.false_ne_true, haccepted]

/-- An argument list that is accepted, with no two dashes alone and no letters behind one dash that
name several flags, is made of phrases, and the program runs the invocation that they come to. Each knob
is set to the last value of its flag wherever that stands, and if phrases change places, but operands do
not among themselves and neither do values of one flag, then they are accepted too, as the same
invocation, so the program answers the same. -/
theorem runProgram_of_reordered_phrases {c : Command} {args : List (List UInt8)} {i : Invocation}
    (haccepted : Invocation.ofScan c (scan c.flags args) = .ok i) :
    ([dash, dash] ∉ args → (∀ arg ∈ args, (readArgument c.flags arg).count ≤ 1) →
      ∃ phrases : List (Phrase c.flags), phrases.flatMap Phrase.args = args) ∧
    runProgram (c.words ++ args) = i.runAs c ∧
    ∀ phrases : List (Phrase c.flags), phrases.flatMap Phrase.args = args →
      i.ComesFrom (phrases.map Phrase.item) ∧
      ∀ phrases' : List (Phrase c.flags), phrases'.Perm phrases →
        operandsOf (phrases'.map Phrase.item) = operandsOf (phrases.map Phrase.item) →
        (∀ f, valuesOf f (phrases'.map Phrase.item) = valuesOf f (phrases.map Phrase.item)) →
        Invocation.ofScan c (scan c.flags (phrases'.flatMap Phrase.args)) = .ok i ∧
          runProgram (c.words ++ phrases'.flatMap Phrase.args) = runProgram (c.words ++ args) := by
  obtain ⟨hstop, hacted⟩ := Invocation.ofScan_eq_ok_iff.mp haccepted
  have hrun := runProgram_of_accepted haccepted
  refine ⟨exists_phrases hstop, hrun, ?_⟩
  intro phrases hphrases
  rw [← hphrases, scan_phrases] at hacted
  refine ⟨Invocation.comesFrom_of_actAll hacted, ?_⟩
  intro phrases' hperm hoperands hvalues
  have haccepted' : Invocation.ofScan c (scan c.flags (phrases'.flatMap Phrase.args)) = .ok i := by
    rw [scan_phrases]
    exact Invocation.ofScan_eq_ok_iff.mpr
      ⟨rfl, Invocation.actAll_of_perm hacted (hperm.map _) hoperands hvalues⟩
  exact ⟨haccepted', (runProgram_of_accepted haccepted').trans hrun.symm⟩

/-- The later of two engines is the one chosen, also behind an operand and a flag that have changed
places with the settings. -/
theorem runProgram_of_reordered_phrases_two_engines :
    let bytes (word : String) := Text.Utf8.encode word.toList
    let args := ["--engine", "table", "a*", "aa", "--engine=auto", "-q"].map bytes
    let args' := ["a*", "--engine", "table", "aa", "-q", "--engine=auto"].map bytes
    let i : Invocation :=
      { quiet := true, settings := { engine? := some .auto }, operands := ["a*", "aa"] }
    Invocation.ofScan .search (scan Command.search.flags args) = .ok i ∧
      (∃ phrases : List (Phrase Command.search.flags), phrases.flatMap Phrase.args = args) ∧
      Invocation.ofScan .search (scan Command.search.flags args') = .ok i ∧
      runProgram (Command.search.words ++ args) = i.runMatch ∧
      runProgram (Command.search.words ++ args') = runProgram (Command.search.words ++ args) := by
  intro bytes args args' i
  let table : Phrase Command.search.flags :=
    ⟨_, _, @Item.SpelledBy.apart _ (bytes "--engine") .engine "--engine" (bytes "table")
      (by decide +kernel)⟩
  let auto : Phrase Command.search.flags :=
    ⟨.setting .engine (bytes "auto"), [bytes "--engine=auto"], .alone (by decide +kernel)⟩
  let quiet : Phrase Command.search.flags :=
    ⟨.toggle .quiet, [bytes "-q"], .alone (by decide +kernel)⟩
  let pattern : Phrase Command.search.flags := ⟨.operand (bytes "a*"), [bytes "a*"], .alone rfl⟩
  let haystack : Phrase Command.search.flags := ⟨.operand (bytes "aa"), [bytes "aa"], .alone rfl⟩
  have haccepted : Invocation.ofScan .search (scan Command.search.flags args) = .ok i := by
    decide +kernel
  obtain ⟨hviewed, hrun, hreordered⟩ := runProgram_of_reordered_phrases haccepted
  obtain ⟨-, hreordered⟩ := hreordered [table, pattern, haystack, auto, quiet] rfl
  have hperm : [pattern, table, haystack, quiet, auto].Perm [table, pattern, haystack, auto, quiet] :=
    (List.Perm.swap table pattern _).trans
      ((((List.Perm.swap auto quiet []).cons haystack).cons pattern).cons table)
  have hvalues : ∀ f, valuesOf f ([pattern, table, haystack, quiet, auto].map Phrase.item) =
      valuesOf f ([table, pattern, haystack, auto, quiet].map Phrase.item) := by
    intro f
    cases f <;> rfl
  obtain ⟨haccepted', hsame⟩ := hreordered _ hperm rfl hvalues
  exact ⟨haccepted, hviewed (by decide +kernel) (by decide +kernel), haccepted', hrun, hsame⟩

end StarMatch.CommandLine
