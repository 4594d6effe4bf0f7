import Mathlib.Data.List.Induction
import StarMatch.Search.Backtrack
import StarMatch.Search.Table

/-!
# Settings in layers

However many calls a builder gets, and in whatever order, each knob is as the last call that sets it
has left it. Settings and reserved symbols are layered apart from one another, and building leaves a
builder alone. So whatever is built at some point is built as by a new builder with the settings and
reserved symbols settled until then, each given in one call.
-/

namespace StarMatch

universe u v w x

section Layers

variable {κ : Type u} {α : Type v}

/-- The last value that layers give for a knob, if any does. For a knob whose values are options, to be
given nothing is to be given a value. -/
def lastGiven (knob : κ → Option α) (layers : List κ) : Option α :=
  (layers.filterMap knob).getLast?

theorem lastGiven_concat (knob : κ → Option α) (layers : List κ) (top : κ) :
    lastGiven knob (layers ++ [top]) = (knob top).or (lastGiven knob layers) := by
  rw [lastGiven, List.filterMap_append, List.getLast?_append, List.filterMap_cons]
  cases knob top <;> rfl

theorem lastGiven_append_cons {knob : κ → Option α} {top : κ} {value : α} {above : List κ}
    (below : List κ) (htop : knob top = some value) (habove : ∀ layer ∈ above, knob layer = none) :
    lastGiven knob (below ++ top :: above) = some value := by
  have hnothing : above.filterMap knob = [] := List.filterMap_eq_nil_iff.mpr habove
  rw [lastGiven, List.filterMap_append, List.filterMap_cons_some htop, hnothing,
    List.getLast?_concat]

end Layers

/-- The reserved symbols that layers settle. -/
def ReservedSymbols.settled (layers : List ReservedSymbols) : ReservedSymbols where
  wildcard? := lastGiven wildcard? layers
  repetition? := lastGiven repetition? layers

theorem ReservedSymbols.settled_concat (layers : List ReservedSymbols) (top : ReservedSymbols) :
    settled (layers ++ [top]) = (settled layers).overlay top := by
  simp only [settled, overlay, lastGiven_concat]

theorem ReservedSymbols.overlay_new (top : ReservedSymbols) :
    ({} : ReservedSymbols).overlay top = top := by
  simp only [overlay, Option.or_none]

/-- The settings of an engine that layers settle. -/
def SearchSettings.settled (layers : List SearchSettings) : SearchSettings where
  tableSizeLimit? := lastGiven tableSizeLimit? layers

theorem SearchSettings.settled_concat (layers : List SearchSettings) (top : SearchSettings) :
    settled (layers ++ [top]) = (settled layers).overlay top := by
  simp only [settled, overlay, lastGiven_concat]

theorem SearchSettings.overlay_new (top : SearchSettings) :
    ({} : SearchSettings).overlay top = top := by
  simp only [overlay, Option.or_none]

/-- A call on a builder that takes settings of one type and builds from sources of another. -/
inductive BuilderCall (κ : Type u) (ι : Type v) where
  | configure (settings : κ)
  | reserve (reserved : ReservedSymbols)
  | build (source : ι)

namespace BuilderCall

variable {κ : Type u} {ι : Type v}

/-- The settings that a call gives. -/
def settings? : BuilderCall κ ι → Option κ
  | configure settings => some settings
  | _ => none

/-- The reserved symbols that a call gives. -/
def reserved? : BuilderCall κ ι → Option ReservedSymbols
  | reserve reserved => some reserved
  | _ => none

/-- What a call asks to build from. -/
def source? : BuilderCall κ ι → Option ι
  | build source => some source
  | _ => none

end BuilderCall

/-- What a kind of builder does on each call, and which sources it reads as written patterns. -/
structure BuilderKind (β : Type u) (κ : Type v) (ι : Type w) (ρ : Type x) where
  new : β
  configure : β → κ → β
  reserve : β → ReservedSymbols → β
  build : β → ι → ρ
  isWritten : ι → Bool

/-- A builder at work, and what has been built so far, the errors of failed builds included. -/
structure Workbench (β : Type u) (ρ : Type v) where
  builder : β
  built : List ρ := []

namespace BuilderKind

variable {β : Type u} {κ : Type v} {ι : Type w} {ρ : Type x} (k : BuilderKind β κ ι ρ)

/-- One call. -/
def call (bench : Workbench β ρ) : BuilderCall κ ι → Workbench β ρ
  | .configure settings => { bench with builder := k.configure bench.builder settings }
  | .reserve reserved => { bench with builder := k.reserve bench.builder reserved }
  | .build source => { bench with built := bench.built ++ [k.build bench.builder source] }

/-- The workbench after calls on a new builder. -/
def after (calls : List (BuilderCall κ ι)) : Workbench β ρ :=
  calls.foldl k.call { builder := k.new }

/-- A new builder that is given settings and reserved symbols in one call each. -/
def newWith (settings : κ) (reserved : ReservedSymbols) : β :=
  k.reserve (k.configure k.new settings) reserved

variable {k}

theorem after_concat (calls : List (BuilderCall κ ι)) (c : BuilderCall κ ι) :
    k.after (calls ++ [c]) = k.call (k.after calls) c := by
  rw [after, List.foldl_append, List.foldl_cons, List.foldl_nil]
  rfl

theorem length_built_after (calls : List (BuilderCall κ ι)) :
    (k.after calls).built.length = (calls.filterMap (·.source?)).length := by
  induction calls using List.reverseRecOn with
  | nil => rfl
  | append_singleton calls c ih =>
    rw [after_concat, List.filterMap_append, List.length_append, ← ih]
    cases c with
    | configure settings => rfl
    | reserve reserved => rfl
    | build source => exact List.length_append

/-- What has been built stays as it is. -/
theorem kept_after (calls later : List (BuilderCall κ ι)) :
    (k.after calls).built <+: (k.after (calls ++ later)).built := by
  induction later using List.reverseRecOn with
  | nil => exact ⟨[], by rw [List.append_nil, List.append_nil]⟩
  | append_singleton later c ih =>
    rw [← List.append_assoc, after_concat]
    cases c with
    | configure settings => exact ih
    | reserve reserved => exact ih
    | build source => exact ih.trans (List.prefix_append _ _)

/-- What a call builds stands behind what the builds before it have left, whatever is called later. -/
theorem getElem?_built_after (before later : List (BuilderCall κ ι)) (source : ι) :
    (k.after (before ++ .build source :: later)).built[(before.filterMap (·.source?)).length]? =
      some (k.build (k.after before).builder source) := by
  obtain ⟨rest, hrest⟩ := kept_after (k := k) (before ++ [.build source]) later
  rw [List.append_assoc, List.singleton_append, after_concat] at hrest
  rw [← hrest, ← length_built_after (k := k), call, List.append_assoc]
  rw [List.getElem?_append_right (Nat.le_refl _), Nat.sub_self]
  rfl

/-- Every build is one by the builder that is made of what the calls before it have settled, and what has
been built stays as it is. -/
structure BuildsAsSettled (k : BuilderKind β κ ι ρ) (settled : List κ → κ)
    (mk : κ → ReservedSymbols → β) : Prop where
  /-- A builder is made of the settings and of the reserved symbols that its calls have settled. -/
  builder_after : ∀ calls, (k.after calls).builder =
    mk (settled (calls.filterMap (·.settings?))) (.settled (calls.filterMap (·.reserved?)))
  /-- So is a new builder that is told of them in one call each. -/
  newWith_eq : ∀ settings reserved, k.newWith settings reserved = mk settings reserved
  /-- A build is found behind those before it, whatever is called later. -/
  build : ∀ before source later,
    (k.after (before ++ .build source :: later)).built[(before.filterMap (·.source?)).length]? =
      some (k.build (mk (settled (before.filterMap (·.settings?)))
        (.settled (before.filterMap (·.reserved?)))) source)
  /-- Reserved symbols have no part in a build that reads no written pattern. -/
  build_unwritten : ∀ before source later reserved, k.isWritten source = false →
    (k.after (before ++ .build source :: later)).built[(before.filterMap (·.source?)).length]? =
      some (k.build (mk (settled (before.filterMap (·.settings?))) reserved) source)
  kept : ∀ calls later, (k.after calls).built <+: (k.after (calls ++ later)).built
  /-- Building, with success or without, leaves the builder as it was. -/
  builder_build : ∀ calls source, (k.after (calls ++ [.build source])).builder = (k.after calls).builder

/-- A builder of the kind is made of settings and reserved symbols, and each call layers something on one
of the two. -/
structure Layered (k : BuilderKind β κ ι ρ) (overlay : κ → κ → κ) (settled : List κ → κ)
    (mk : κ → ReservedSymbols → β) : Prop where
  new : k.new = mk (settled []) {}
  configure : ∀ settings reserved top,
    k.configure (mk settings reserved) top = mk (overlay settings top) reserved
  reserve : ∀ settings reserved top,
    k.reserve (mk settings reserved) top = mk settings (reserved.overlay top)
  settled_concat : ∀ layers top, settled (layers ++ [top]) = overlay (settled layers) top
  overlay_new : ∀ top, overlay (settled []) top = top
  build_unwritten : ∀ settings reserved reserved' source, k.isWritten source = false →
    k.build (mk settings reserved) source = k.build (mk settings reserved') source

variable {overlay : κ → κ → κ} {settled : List κ → κ} {mk : κ → ReservedSymbols → β}

/-- A builder at work has what its calls have settled. A build settles nothing. -/
theorem Layered.builder_after (h : k.Layered overlay settled mk) (calls : List (BuilderCall κ ι)) :
    (k.after calls).builder =
      mk (settled (calls.filterMap (·.settings?))) (.settled (calls.filterMap (·.reserved?))) := by
  induction calls using List.reverseRecOn with
  | nil => exact h.new
  | append_singleton calls c ih =>
    simp only [after_concat, List.filterMap_append]
    cases c with
    | configure settings =>
      simp only [call, ih, h.configure, h.settled_concat, BuilderCall.settings?,
        BuilderCall.reserved?, List.filterMap_cons, List.filterMap_nil, List.append_nil]
    | reserve reserved =>
      simp only [call, ih, h.reserve, ReservedSymbols.settled_concat, BuilderCall.settings?,
        BuilderCall.reserved?, List.filterMap_cons, List.filterMap_nil, List.append_nil]
    | build source =>
      simp only [call, ih, BuilderCall.settings?, BuilderCall.reserved?, List.filterMap_cons,
        List.filterMap_nil, List.append_nil]

theorem Layered.newWith_eq (h : k.Layered overlay settled mk) (settings : κ)
    (reserved : ReservedSymbols) : k.newWith settings reserved = mk settings reserved := by
  rw [newWith, h.new, h.configure, h.reserve, h.overlay_new, ReservedSymbols.overlay_new]

theorem Layered.buildsAsSettled (h : k.Layered overlay settled mk) : k.BuildsAsSettled settled mk where
  builder_after := h.builder_after
  newWith_eq := h.newWith_eq
  build before source later := by rw [getElem?_built_after, h.builder_after]
  build_unwritten before source later reserved hwritten := by
    rw [getElem?_built_after, h.builder_after, h.build_unwritten _ _ reserved source hwritten]
  kept := kept_after
  builder_build calls source := by rw [after_concat, call]

end BuilderKind

/-- What an engine over symbols of any type is built from. -/
inductive EngineSource : Type 1 where
  | chars (text : List Char)
  | bytes (text : List UInt8)
  | pattern {σ : Type} (p : Pattern σ)

/-- What an engine of a kind is built into, an error if a written pattern is rejected. -/
inductive BuiltEngine (E : Type → Type) : Type 1 where
  | chars (result : Except PatternError (E Char))
  | bytes (result : Except PatternError (E UInt8))
  | pattern {σ : Type} (engine : E σ)

/-- Whether a source is a written pattern. -/
def EngineSource.isWritten : EngineSource → Bool
  | chars _ | bytes _ => true
  | pattern _ => false

namespace SearchBuilder

/-- The builder of an engine, which has the same calls for either engine. -/
def kind {E : Type → Type} (ofChars : SearchBuilder → List Char → Except PatternError (E Char))
    (ofBytes : SearchBuilder → List UInt8 → Except PatternError (E UInt8))
    (ofPattern : {σ : Type} → SearchBuilder → Pattern σ → E σ) :
    BuilderKind SearchBuilder SearchSettings EngineSource (BuiltEngine E) where
  new := {}
  configure := configure
  reserve := reserve
  build
    | b, .chars text => .chars (ofChars b text)
    | b, .bytes text => .bytes (ofBytes b text)
    | b, .pattern p => .pattern (ofPattern b p)
  isWritten := EngineSource.isWritten

theorem layered_kind {E : Type → Type}
    {ofChars : SearchBuilder → List Char → Except PatternError (E Char)}
    {ofBytes : SearchBuilder → List UInt8 → Except PatternError (E UInt8)}
    {ofPattern : {σ : Type} → SearchBuilder → Pattern σ → E σ}
    (h : ∀ {σ : Type} (settings : SearchSettings) (reserved reserved' : ReservedSymbols)
      (p : Pattern σ), ofPattern ⟨settings, reserved⟩ p = ofPattern ⟨settings, reserved'⟩ p) :
    (kind ofChars ofBytes ofPattern).Layered SearchSettings.overlay SearchSettings.settled mk where
  new := rfl
  configure _ _ _ := rfl
  reserve _ _ _ := rfl
  settled_concat := SearchSettings.settled_concat
  overlay_new := SearchSettings.overlay_new
  build_unwritten settings reserved reserved' source hwritten := by
    cases source with
    | chars text => cases hwritten
    | bytes text => cases hwritten
    | pattern p => exact congrArg BuiltEngine.pattern (h settings reserved reserved' p)

end SearchBuilder

/-- The builder of the backtracker. -/
def Backtracker.builderKind :
    BuilderKind SearchBuilder SearchSettings EngineSource (BuiltEngine Backtracker) :=
  SearchBuilder.kind ofChars ofBytes ofPattern

/-- The builder of the table engine. -/
def TableMatcher.builderKind :
    BuilderKind SearchBuilder SearchSettings EngineSource (BuiltEngine TableMatcher) :=
  SearchBuilder.kind ofChars ofBytes ofPattern

theorem Backtracker.buildsAsSettled :
    builderKind.BuildsAsSettled SearchSettings.settled SearchBuilder.mk :=
  (SearchBuilder.layered_kind fun _ _ _ _ => rfl).buildsAsSettled

theorem TableMatcher.buildsAsSettled :
    builderKind.BuildsAsSettled SearchSettings.settled SearchBuilder.mk :=
  (SearchBuilder.layered_kind fun _ _ _ _ => rfl).buildsAsSettled

end StarMatch
