import StarMatch.CommandLine.Program

/-!
# What arguments come to

The arguments of the match command are scanned into items, which are acted upon one after another.
Each flag has a part of the invocation to itself, so items about some flags change nothing but the
parts of these flags: two lists of items that are the same but for them lead to invocations that are
the same but for these parts, or to the same failure.
-/

namespace StarMatch.CommandLine

/-- The scan of the arguments of the match command, if that is the command that the arguments name. -/
def matchScan? (argv : List (List UInt8)) : Option Scan :=
  match commandWord programUsage false argv with
  | .ok ("match", onlyOperands, args) => some (scanFor .search onlyOperands args)
  | _ => none

theorem runProgram_of_matchScan? {argv : List (List UInt8)} {s : Scan}
    (h : matchScan? argv = some s) :
    runProgram argv =
      match Invocation.ofScan .search s with
      | .error e => .failed e
      | .ok i => i.runMatch := by
  unfold matchScan? at h
  unfold runProgram
  split at h
  · next onlyOperands args hword =>
    rw [hword]
    obtain rfl := Option.some.inj h
    rfl
  · cases h

/-- The flag that an item is about. -/
def Item.flag? : Item → Option Flag
  | .toggle f => some f
  | .setting f _ => some f
  | .operand _ => none

/-- Whether the item is about one of the flags. -/
def Item.isAbout (flags : List Flag) (item : Item) : Bool :=
  item.flag?.any flags.contains

@[simp] theorem Item.isAbout_toggle_iff {flags : List Flag} {f : Flag} :
    (toggle f).isAbout flags = true ↔ f ∈ flags := by
  simp [isAbout, flag?]

@[simp] theorem Item.isAbout_setting_iff {flags : List Flag} {f : Flag} {value : List UInt8} :
    (setting f value).isAbout flags = true ↔ f ∈ flags := by
  simp [isAbout, flag?]

@[simp] theorem Item.isAbout_operand (flags : List Flag) (value : List UInt8) :
    (operand value).isAbout flags = false := rfl

/-- The item can be acted upon, at least for some invocation. -/
def Item.Readable (c : Command) (item : Item) : Prop :=
  ∃ i k, Invocation.act c i item = .ok k

/-- A flag without a value can always be acted upon. -/
theorem Item.readable_of_isAbout {c : Command} {flags : List Flag} {item : Item}
    (hflags : ∀ f ∈ flags, f.takesValue = false) (h : item.isAbout flags = true) :
    item.Readable c := by
  cases item with
  | toggle f => exact ⟨{}, _, rfl⟩
  | setting f value =>
    have hnone := hflags f (isAbout_setting_iff.mp h)
    cases f with
    | quiet | verbose | noPrefilter => exact ⟨{}, _, rfl⟩
    | wildcard | repetition | engine | tableSizeLimit => cases hnone
  | operand value => simp at h

namespace Invocation

/-- The invocations are the same but for the parts of the given flags. -/
structure SameBut (flags : List Flag) (i j : Invocation) : Prop where
  quiet : .quiet ∉ flags → i.quiet = j.quiet
  verbose : .verbose ∉ flags → i.verbose = j.verbose
  wildcard : .wildcard ∉ flags → i.reserved.wildcard? = j.reserved.wildcard?
  repetition : .repetition ∉ flags → i.reserved.repetition? = j.reserved.repetition?
  engine : .engine ∉ flags → i.settings.engine? = j.settings.engine?
  prefilter : .noPrefilter ∉ flags → i.settings.prefilter? = j.settings.prefilter?
  limit : .tableSizeLimit ∉ flags → i.settings.tableSizeLimit? = j.settings.tableSizeLimit?
  operands : i.operands = j.operands

/-- Both results are the same failure, or invocations that are the same but for the parts of the given
flags. -/
def AlikeBut (flags : List Flag) : Except Failure Invocation → Except Failure Invocation → Prop
  | .ok i, .ok j => SameBut flags i j
  | .error e, .error e' => e = e'
  | _, _ => False

variable {c : Command} {flags : List Flag} {i j : Invocation} {f : Flag} {item : Item}
  {items : List Item}

theorem ofScan_eq_ok_iff {s : Scan} :
    ofScan c s = .ok i ↔ s.stop? = none ∧ actAll c {} s.items = .ok i := by
  unfold ofScan
  cases actAll c {} s.items with
  | error e => simp
  | ok i => cases s.stop? <;> simp

theorem actAll_cons_eq_ok_iff {k : Invocation} :
    actAll c i (item :: items) = .ok k ↔ ∃ j, i.act c item = .ok j ∧ actAll c j items = .ok k := by
  rw [actAll]
  cases i.act c item <;> simp

theorem SameBut.refl (flags : List Flag) (i : Invocation) : SameBut flags i i :=
  ⟨fun _ => rfl, fun _ => rfl, fun _ => rfl, fun _ => rfl, fun _ => rfl, fun _ => rfl, fun _ => rfl,
    rfl⟩

theorem SameBut.trans {k : Invocation} (h : SameBut flags i j) (h' : SameBut flags j k) :
    SameBut flags i k :=
  ⟨fun hf => (h.quiet hf).trans (h'.quiet hf), fun hf => (h.verbose hf).trans (h'.verbose hf),
    fun hf => (h.wildcard hf).trans (h'.wildcard hf),
    fun hf => (h.repetition hf).trans (h'.repetition hf),
    fun hf => (h.engine hf).trans (h'.engine hf), fun hf => (h.prefilter hf).trans (h'.prefilter hf),
    fun hf => (h.limit hf).trans (h'.limit hf), h.operands.trans h'.operands⟩

theorem SameBut.symm (h : SameBut flags i j) : SameBut flags j i :=
  ⟨fun hf => (h.quiet hf).symm, fun hf => (h.verbose hf).symm, fun hf => (h.wildcard hf).symm,
    fun hf => (h.repetition hf).symm, fun hf => (h.engine hf).symm,
    fun hf => (h.prefilter hf).symm, fun hf => (h.limit hf).symm, h.operands.symm⟩

theorem SameBut.reserved_eq (h : SameBut flags i j) (hwildcard : .wildcard ∉ flags)
    (hrepetition : .repetition ∉ flags) : i.reserved = j.reserved := by
  have hwild := h.wildcard hwildcard
  have hrepeat := h.repetition hrepetition
  cases hi : i.reserved with
  | mk wildcard? repetition? =>
    cases hj : j.reserved with
    | mk wildcard?' repetition?' => simp_all

theorem SameBut.settings_eq (h : SameBut flags i j) (hengine : .engine ∉ flags)
    (hprefilter : .noPrefilter ∉ flags) (hlimit : .tableSizeLimit ∉ flags) :
    i.settings = j.settings := by
  have hengines := h.engine hengine
  have hprefilters := h.prefilter hprefilter
  have hlimits := h.limit hlimit
  cases hi : i.settings with
  | mk engine? prefilter? tableSizeLimit? =>
    cases hj : j.settings with
    | mk engine?' prefilter?' tableSizeLimit?' => simp_all

theorem SameBut.eq_of_nil (h : SameBut [] i j) : i = j := by
  have hreserved := h.reserved_eq List.not_mem_nil List.not_mem_nil
  have hsettings := h.settings_eq List.not_mem_nil List.not_mem_nil List.not_mem_nil
  obtain ⟨hquiet, hverbose, -, -, -, -, -, hoperands⟩ := h
  cases i
  cases j
  simp_all

theorem SameBut.toggle (h : SameBut flags i j) (f : Flag) :
    SameBut flags (i.toggle f) (j.toggle f) := by
  cases f with
  | quiet => exact { h with quiet := fun _ => rfl }
  | verbose => exact { h with verbose := fun _ => rfl }
  | noPrefilter => exact { h with prefilter := fun _ => rfl }
  | wildcard | repetition | engine | tableSizeLimit => exact h

theorem alikeBut_map {α : Type} {g g' : α → Invocation} (h : ∀ x, SameBut flags (g x) (g' x))
    (reading : Except Failure α) : AlikeBut flags (reading.map g) (reading.map g') := by
  cases reading with
  | error e => rfl
  | ok x => exact h x

theorem SameBut.set (h : SameBut flags i j) (f : Flag) (value : List UInt8) :
    AlikeBut flags (i.set f value) (j.set f value) := by
  cases f with
  | wildcard =>
    refine alikeBut_map (fun _ => ?_) _
    exact { h with wildcard := fun _ => rfl }
  | repetition =>
    refine alikeBut_map (fun _ => ?_) _
    exact { h with repetition := fun _ => rfl }
  | engine =>
    refine alikeBut_map (fun _ => ?_) _
    exact { h with engine := fun _ => rfl }
  | tableSizeLimit =>
    refine alikeBut_map (fun _ => ?_) _
    exact { h with limit := fun _ => rfl }
  | quiet | verbose | noPrefilter => exact h

theorem SameBut.addOperand (h : SameBut flags i j) (c : Command) (value : List UInt8) :
    AlikeBut flags (i.addOperand c value) (j.addOperand c value) := by
  unfold Invocation.addOperand
  rw [h.operands]
  by_cases honly : c ≠ .search ∧ j.operands ≠ []
  · rw [if_pos honly, if_pos honly]
    rfl
  · rw [if_neg honly, if_neg honly]
    cases Text.Utf8.decode? value with
    | none => rfl
    | some cs => exact { h with operands := rfl }

/-- What an item does is independent of the parts that the invocations do not share. -/
theorem SameBut.act (h : SameBut flags i j) (c : Command) (item : Item) :
    AlikeBut flags (i.act c item) (j.act c item) := by
  cases item with
  | toggle f => exact h.toggle f
  | setting f value => exact h.set f value
  | operand value => exact h.addOperand c value

theorem sameBut_toggle (hf : f ∈ flags) (i : Invocation) : SameBut flags (i.toggle f) i := by
  have h := SameBut.refl flags i
  cases f with
  | quiet => exact { h with quiet := fun hout => absurd hf hout }
  | verbose => exact { h with verbose := fun hout => absurd hf hout }
  | noPrefilter => exact { h with prefilter := fun hout => absurd hf hout }
  | wildcard | repetition | engine | tableSizeLimit => exact h

theorem exists_read_of_map_eq_ok {α : Type} {g : α → Invocation} {reading : Except Failure α}
    (hread : reading.map g = .ok j) : ∃ x, reading = .ok x ∧ g x = j := by
  cases reading with
  | error e => cases hread
  | ok x => exact ⟨x, rfl, Except.ok.inj hread⟩

theorem exists_map_sameBut {α : Type} {g g' : α → Invocation} {k : Invocation}
    {reading : Except Failure α} (hread : reading.map g = .ok k)
    (h : ∀ x, SameBut flags (g' x) i) : ∃ j, reading.map g' = .ok j ∧ SameBut flags j i := by
  obtain ⟨x, rfl, -⟩ := exists_read_of_map_eq_ok hread
  exact ⟨g' x, rfl, h x⟩

/-- Whether a value can be read does not depend on the invocation, and only the part of the flag is
set to it. -/
theorem exists_set_sameBut (hf : f ∈ flags) {value : List UInt8}
    (hread : Item.Readable c (.setting f value)) (i : Invocation) :
    ∃ j, i.set f value = .ok j ∧ SameBut flags j i := by
  have h := SameBut.refl flags i
  obtain ⟨i₀, k, hread⟩ := hread
  replace hread : i₀.set f value = .ok k := hread
  cases f with
  | wildcard =>
    refine exists_map_sameBut hread fun _ => ?_
    exact { h with wildcard := fun hout => absurd hf hout }
  | repetition =>
    refine exists_map_sameBut hread fun _ => ?_
    exact { h with repetition := fun hout => absurd hf hout }
  | engine =>
    refine exists_map_sameBut hread fun _ => ?_
    exact { h with engine := fun hout => absurd hf hout }
  | tableSizeLimit =>
    refine exists_map_sameBut hread fun _ => ?_
    exact { h with limit := fun hout => absurd hf hout }
  | quiet | verbose | noPrefilter => exact ⟨i, rfl, h⟩

/-- An item that is about one of the flags changes only their parts. -/
theorem exists_act_sameBut (habout : item.isAbout flags = true)
    (hread : item.Readable c) (i : Invocation) :
    ∃ j, i.act c item = .ok j ∧ SameBut flags j i := by
  cases item with
  | toggle f => exact ⟨_, rfl, sameBut_toggle (Item.isAbout_toggle_iff.mp habout) i⟩
  | setting f value => exact exists_set_sameBut (Item.isAbout_setting_iff.mp habout) hread i
  | operand value => simp at habout

/-- Items about some flags can be left out if only the parts of other flags matter. -/
theorem alikeBut_actAll_filter (h : SameBut flags i j)
    (hread : ∀ item ∈ items, item.isAbout flags = true → item.Readable c) :
    AlikeBut flags (actAll c i items) (actAll c j (items.filter (!·.isAbout flags))) := by
  induction items generalizing i j with
  | nil => exact h
  | cons item items ih =>
    obtain ⟨hitem, hitems⟩ := List.forall_mem_cons.mp hread
    by_cases habout : item.isAbout flags = true
    · rw [List.filter_cons_of_neg (by simp [habout])]
      obtain ⟨i', hact, hsame⟩ := exists_act_sameBut habout (hitem habout) i
      rw [actAll, hact]
      exact ih (hsame.trans h) hitems
    · rw [List.filter_cons_of_pos (by simp [habout]), actAll, actAll]
      have hact := h.act c item
      cases hi : i.act c item with
      | error e =>
        cases hj : j.act c item with
        | error e' => rwa [hi, hj] at hact
        | ok j' => rw [hi, hj] at hact; exact hact.elim
      | ok i' =>
        cases hj : j.act c item with
        | error e' => rw [hi, hj] at hact; exact hact.elim
        | ok j' =>
          rw [hi, hj] at hact
          exact ih hact hitems

theorem readable_of_actAll {k : Invocation} (h : actAll c i items = .ok k) :
    ∀ item ∈ items, item.Readable c := by
  induction items generalizing i with
  | nil => exact fun _ hitem => absurd hitem List.not_mem_nil
  | cons item items ih =>
    obtain ⟨next, hact, hnext⟩ := actAll_cons_eq_ok_iff.mp h
    exact List.forall_mem_cons.mpr ⟨⟨i, next, hact⟩, ih hnext⟩

theorem AlikeBut.exists_of_ok {result : Except Failure Invocation} (h : AlikeBut flags result (.ok i)) :
    ∃ j, result = .ok j ∧ SameBut flags j i := by
  cases result with
  | error e => exact h.elim
  | ok j => exact ⟨j, rfl, h⟩

theorem AlikeBut.symm {result result' : Except Failure Invocation} (h : AlikeBut flags result result') :
    AlikeBut flags result' result := by
  cases result with
  | error e =>
    cases result' with
    | error e' => exact Eq.symm h
    | ok j => exact h.elim
  | ok i =>
    cases result' with
    | error e' => exact h.elim
    | ok j => exact SameBut.symm h

/-- If scans are the same but for items about some flags, and those of the second can be read, then it
asks for an invocation if the first does, which is the same but for the parts of these flags. -/
theorem exists_ofScan_sameBut {s s' : Scan} (hi : ofScan c s = .ok i) (hstop : s'.stop? = none)
    (hitems : s'.items.filter (!·.isAbout flags) = s.items.filter (!·.isAbout flags))
    (hread : ∀ item ∈ s'.items, item.isAbout flags = true → item.Readable c) :
    ∃ i', ofScan c s' = .ok i' ∧ SameBut flags i' i := by
  obtain ⟨-, hacted⟩ := ofScan_eq_ok_iff.mp hi
  have hfiltered := alikeBut_actAll_filter (SameBut.refl flags {})
    fun item hitem _ => readable_of_actAll hacted item hitem
  rw [hacted] at hfiltered
  obtain ⟨k, hk, hki⟩ := hfiltered.symm.exists_of_ok
  have hfiltered' := alikeBut_actAll_filter (SameBut.refl flags {}) hread
  rw [hitems, hk] at hfiltered'
  obtain ⟨i', hi', hsame⟩ := hfiltered'.exists_of_ok
  exact ⟨i', ofScan_eq_ok_iff.mpr ⟨hstop, hi'⟩, hsame.trans hki⟩

/-- Two scans that are the same but for items about some flags ask for invocations that are the same
but for the parts of these flags. -/
theorem sameBut_of_ofScan {s s' : Scan} {i' : Invocation} (hi : ofScan c s = .ok i)
    (hi' : ofScan c s' = .ok i')
    (hitems : s'.items.filter (!·.isAbout flags) = s.items.filter (!·.isAbout flags)) :
    SameBut flags i' i := by
  obtain ⟨hstop, hacted⟩ := ofScan_eq_ok_iff.mp hi'
  have hread : ∀ item ∈ s'.items, item.isAbout flags = true → item.Readable c := by
    intro item hitem _
    exact readable_of_actAll hacted item hitem
  obtain ⟨k, hk, hsame⟩ := exists_ofScan_sameBut hi hstop hitems hread
  obtain rfl := Except.ok.inj (hk.symm.trans hi')
  exact hsame

end Invocation

end StarMatch.CommandLine
