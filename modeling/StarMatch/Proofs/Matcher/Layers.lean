import StarMatch.Proofs.Matcher.Session
import StarMatch.Proofs.Search.Layers

/-!
# Builders and what they have built

The builder of matchers and those of the two engines build as if they had been told at once what their
calls have settled, and what they have built does not change when they are told more. In a session,
where matchers are found by name, a matcher answers as before until something else is built under its
name.
-/

namespace StarMatch

/-- The settings of a matcher that layers settle. -/
def MatcherSettings.settled (layers : List MatcherSettings) : MatcherSettings where
  engine? := lastGiven engine? layers
  prefilter? := lastGiven prefilter? layers
  tableSizeLimit? := lastGiven tableSizeLimit? layers

theorem MatcherSettings.settled_concat (layers : List MatcherSettings) (top : MatcherSettings) :
    settled (layers ++ [top]) = (settled layers).overlay top := by
  simp only [settled, overlay, lastGiven_concat]

theorem MatcherSettings.overlay_new (top : MatcherSettings) :
    ({} : MatcherSettings).overlay top = top := by
  simp only [overlay, Option.or_none]

/-- Whether a source is a written pattern. -/
def PatternSource.isWritten : PatternSource → Bool
  | text _ => true
  | tokens _ | literal _ | empty => false

/-- The builder of matchers. -/
def Matcher.builderKind :
    BuilderKind MatcherBuilder MatcherSettings PatternSource (Except PatternError Matcher) where
  new := {}
  configure := MatcherBuilder.configure
  reserve := MatcherBuilder.reserve
  build := MatcherBuilder.ofSource
  isWritten := PatternSource.isWritten

theorem Matcher.layered_builderKind :
    builderKind.Layered MatcherSettings.overlay MatcherSettings.settled MatcherBuilder.mk where
  new := rfl
  configure _ _ _ := rfl
  reserve _ _ _ := rfl
  settled_concat := MatcherSettings.settled_concat
  overlay_new := MatcherSettings.overlay_new
  build_unwritten _ _ _ source hwritten := by
    cases source with
    | text text => cases hwritten
    | tokens tokens => rfl
    | literal bytes => rfl
    | empty => rfl

namespace Session

/-- The action is a call on the builder, and builds nothing under the given name. -/
inductive Action.Spares (name : String) : Action → Prop
  | configure (settings : MatcherSettings) : Spares name (.configure settings)
  | reserve (reserved : ReservedSymbols) : Spares name (.reserve reserved)
  | build {target : String} (source : PatternSource) (hname : target ≠ name) :
    Spares name (.build target source)

variable {s : Session} {name : String}

theorem Action.Spares.caches_act {a : Action} (h : a.Spares name) (s : Session) :
    (s.act a).1.caches = s.caches := by
  cases h with
  | configure settings => rfl
  | reserve reserved => rfl
  | build source hname =>
    rw [act]
    cases s.builder.ofSource source <;> rfl

theorem Action.Spares.matcher?_act {a : Action} (h : a.Spares name) (s : Session) :
    (s.act a).1.matcher? name = s.matcher? name := by
  cases h with
  | configure settings => rfl
  | reserve reserved => rfl
  | build source hname =>
    rw [act]
    cases s.builder.ofSource source with
    | error e => rfl
    | ok m => rw [install, matcher?_putMatcher, if_neg hname.symm]

/-- What a search answers is settled by the matcher of the name and by the caches. -/
theorem act_search_congr {s' : Session} (hmatcher : s'.matcher? name = s.matcher? name)
    (hcaches : s'.caches = s.caches) (cache : String) (haystack : List UInt8) :
    (s'.act (.search name cache haystack)).2 = (s.act (.search name cache haystack)).2 := by
  have hcache : s'.cache cache = s.cache cache := by rw [Session.cache, hcaches, Session.cache]
  simp only [act, hmatcher, hcache]
  cases s.matcher? name <;> rfl

/-- Calls on the builder leave the answers of a matcher as they were. -/
theorem act_search_after {later : List Action} (h : ∀ a ∈ later, a.Spares name) (cache : String)
    (haystack : List UInt8) :
    ((s.after later).act (.search name cache haystack)).2 =
      (s.act (.search name cache haystack)).2 := by
  induction later generalizing s with
  | nil => rfl
  | cons a later ih =>
    obtain ⟨ha, hlater⟩ := List.forall_mem_cons.mp h
    rw [after_cons, ih hlater]
    exact act_search_congr (ha.matcher?_act s) (ha.caches_act s) cache haystack

/-- A failed build leaves the session as it was. -/
theorem act_build_of_error {source : PatternSource} {e : PatternError}
    (h : s.builder.ofSource source = .error e) (name : String) :
    (s.act (.build name source)).1 = s := by
  simp only [act, h, install]

end Session

/-- A compiled matcher keeps the settings of its builder. -/
theorem Matcher.settings_of_build {builder : MatcherBuilder} {source : PatternSource} {m : Matcher}
    (h : builder.ofSource source = .ok m) : m.settings = builder.settings := by
  have hread : ∀ reading : Except PatternError (Pattern UInt8),
      reading.map builder.ofPattern = .ok m → m.settings = builder.settings := by
    intro reading hreading
    cases reading with
    | error e => cases hreading
    | ok p =>
      rw [← Except.ok.inj hreading]
      rfl
  cases source with
  | text text => exact hread _ h
  | tokens tokens => exact hread _ h
  | literal bytes => exact hread (.ok _) h
  | empty => exact hread (.ok _) h

/-- Whatever is called on a builder, and in whatever order, each build is one by the builder that is told
at once the last value given for each knob, and this is the value that what is built works with. A limit
that is taken off last is off. Neither further calls nor failed builds change what there is. -/
theorem builders_build_as_settled :
    Matcher.builderKind.BuildsAsSettled MatcherSettings.settled MatcherBuilder.mk ∧
    Backtracker.builderKind.BuildsAsSettled SearchSettings.settled SearchBuilder.mk ∧
    TableMatcher.builderKind.BuildsAsSettled SearchSettings.settled SearchBuilder.mk ∧
    (∀ (calls : List (BuilderCall MatcherSettings PatternSource)) (source : PatternSource) (m : Matcher),
      let layers := calls.filterMap (·.settings?)
      (Matcher.builderKind.after calls).builder.ofSource source = .ok m →
      m.settings.engine = (lastGiven MatcherSettings.engine? layers).getD .auto ∧
      m.settings.usesPrefilter = (lastGiven MatcherSettings.prefilter? layers).getD true ∧
      m.settings.tableSizeLimit = (lastGiven MatcherSettings.tableSizeLimit? layers).join) ∧
    (∀ (calls : List (BuilderCall MatcherSettings PatternSource)),
      let reserved := (Matcher.builderKind.after calls).builder.reserved
      let layers := calls.filterMap (·.reserved?)
      reserved.wildcard = (lastGiven ReservedSymbols.wildcard? layers).getD 0x2E ∧
      reserved.repetition = (lastGiven ReservedSymbols.repetition? layers).getD 0x2A) ∧
    (∀ (calls : List (BuilderCall SearchSettings EngineSource)) {σ : Type} (p : Pattern σ),
      let limit := (lastGiven SearchSettings.tableSizeLimit? (calls.filterMap (·.settings?))).join
      (Backtracker.ofPattern (Backtracker.builderKind.after calls).builder
        p).settings.tableSizeLimit = limit ∧
      (TableMatcher.ofPattern (TableMatcher.builderKind.after calls).builder
        p).settings.tableSizeLimit = limit) ∧
    (∀ (below above : List (BuilderCall MatcherSettings PatternSource)) (top : MatcherSettings),
      top.tableSizeLimit? = some none →
      (∀ layer ∈ above.filterMap (·.settings?), layer.tableSizeLimit? = none) →
      (Matcher.builderKind.after (below ++ .configure top :: above)).builder.settings.tableSizeLimit =
        none) ∧
    (∀ (below above : List (BuilderCall SearchSettings EngineSource)) (top : SearchSettings),
      top.tableSizeLimit? = some none →
      (∀ layer ∈ above.filterMap (·.settings?), layer.tableSizeLimit? = none) →
      (Backtracker.builderKind.after
        (below ++ .configure top :: above)).builder.settings.tableSizeLimit = none ∧
      (TableMatcher.builderKind.after
        (below ++ .configure top :: above)).builder.settings.tableSizeLimit = none) ∧
    ∀ (s : Session) (name : String),
      (∀ later : List Session.Action, (∀ a ∈ later, a.Spares name) → ∀ cache haystack,
        ((s.after later).act (.search name cache haystack)).2 =
          (s.act (.search name cache haystack)).2) ∧
      ∀ source e, s.builder.ofSource source = .error e → (s.act (.build name source)).1 = s := by
  have hmatcher := Matcher.layered_builderKind.buildsAsSettled
  refine ⟨hmatcher, Backtracker.buildsAsSettled, TableMatcher.buildsAsSettled, ?_, ?_, ?_, ?_, ?_, ?_⟩
  · intro calls source m layers hbuilt
    rw [Matcher.settings_of_build hbuilt, hmatcher.builder_after]
    exact ⟨rfl, rfl, rfl⟩
  · intro calls reserved layers
    simp only [reserved, hmatcher.builder_after]
    exact ⟨rfl, rfl⟩
  · intro calls σ p limit
    rw [Backtracker.buildsAsSettled.builder_after, TableMatcher.buildsAsSettled.builder_after]
    exact ⟨rfl, rfl⟩
  · intro below above top htop habove
    have hlast := lastGiven_append_cons (below.filterMap (·.settings?)) htop habove
    rw [hmatcher.builder_after, List.filterMap_append]
    exact congrArg Option.join hlast
  · intro below above top htop habove
    have hlast := lastGiven_append_cons (below.filterMap (·.settings?)) htop habove
    rw [Backtracker.buildsAsSettled.builder_after, TableMatcher.buildsAsSettled.builder_after,
      List.filterMap_append]
    exact ⟨congrArg Option.join hlast, congrArg Option.join hlast⟩
  · intro s name
    exact ⟨fun _ hlater => Session.act_search_after hlater,
      fun _ _ hfailed => Session.act_build_of_error hfailed name⟩

/-- A limit is set and taken off again, with the prefilter off from the first call on, and between the two
a build fails for a repetition symbol that is a wildcard at the time. The builders of the engines are told
of a limit, of its end and of another wildcard. -/
theorem builders_build_as_settled_unlimited :
    let limited : MatcherSettings :=
      { engine? := some .table, prefilter? := some false, tableSizeLimit? := some (some 4) }
    let unlimited : MatcherSettings := { tableSizeLimit? := some none }
    let before : List (BuilderCall MatcherSettings PatternSource) :=
      [.configure limited, .reserve { wildcard? := some 0x2A }, .build (.text [0x61, 0x2A]),
        .reserve { wildcard? := some 0x3F }, .configure unlimited]
    let later : List (BuilderCall MatcherSettings PatternSource) :=
      [.configure { prefilter? := some true }, .reserve { repetition? := some 0x3F }]
    let built := (Matcher.builderKind.after (before ++ .build (.text [0x3F, 0x2A]) :: later)).built
    let engineBefore : List (BuilderCall SearchSettings EngineSource) :=
      [.configure { tableSizeLimit? := some (some 4) }, .build (.pattern (.literal [true])),
        .reserve { wildcard? := some 0x3F }, .configure { tableSizeLimit? := some none },
        .configure {}]
    let engineLater : List (BuilderCall SearchSettings EngineSource) :=
      [.configure { tableSizeLimit? := some (some 1) }]
    let built' := (Backtracker.builderKind.after
      (engineBefore ++ .build (.chars ['?', '*']) :: engineLater)).built
    let built'' := (TableMatcher.builderKind.after
      (engineBefore ++ .build (.chars ['?', '*']) :: engineLater)).built
    built[0]? = some (.error (.reservedConflict 0x2A)) ∧
      built[1]? = some (.ok (.ofPattern
        { engine? := some .table, prefilter? := some false, tableSizeLimit? := some none }
        ⟨[.any, .star], rfl⟩)) ∧
      built'[0]? = some (.pattern ⟨{ tableSizeLimit? := some (some 4) }, .literal [true]⟩) ∧
      built'[1]? = some (.chars (.ok ⟨{ tableSizeLimit? := some none }, ⟨[.any, .star], rfl⟩⟩)) ∧
      built''[0]? = some (.pattern ⟨{ tableSizeLimit? := some (some 4) }, .literal [true]⟩) ∧
      built''[1]? = some (.chars (.ok ⟨{ tableSizeLimit? := some none }, ⟨[.any, .star], rfl⟩⟩)) ∧
      (Matcher.builderKind.after
        ([.configure limited] ++ .configure unlimited :: later)).builder.settings.tableSizeLimit =
          none := by
  intro limited unlimited before later built engineBefore engineLater built' built''
  obtain ⟨hmatcher, hbacktracker, htable, -, -, -, hlimit, -⟩ := builders_build_as_settled
  exact ⟨hmatcher.build [.configure limited, .reserve { wildcard? := some 0x2A }] _ _,
    hmatcher.build before (.text [0x3F, 0x2A]) later,
    hbacktracker.build [.configure { tableSizeLimit? := some (some 4) }] _ _,
    hbacktracker.build engineBefore (.chars ['?', '*']) engineLater,
    htable.build [.configure { tableSizeLimit? := some (some 4) }] _ _,
    htable.build engineBefore (.chars ['?', '*']) engineLater,
    hlimit [.configure limited] later unlimited rfl (by decide)⟩

end StarMatch
