import StarMatch.Search.Builder
import StarMatch.Search.Grid
import StarMatch.Search.Room

/-!
# The memoized backtracker

The backtracker asks whether the rest of the haystack matches the rest of the pattern. A state says
how much of each has been used up, and its verdict follows from those of at most two further states:

* at the end of the pattern, the haystack must be at its end;
* at a repeated atom, the state that skips the atom is asked first, and if that rejects and the atom
  accepts the next symbol, the state one symbol further on;
* at any other atom, the atom must accept the next symbol, and the state behind both is asked.

Verdicts are kept in a grid, so no state is decided twice, and the states that wait for another one
are kept in a list, the most recent in front.
-/

namespace StarMatch

universe u

variable {σ : Type u}

/-- A backtracking engine for one pattern. -/
structure Backtracker (σ : Type u) where
  settings : SearchSettings := {}
  pattern : Pattern σ

namespace Backtracker

/-- The engine that a builder makes for a pattern. -/
def ofPattern (b : SearchBuilder) (pattern : Pattern σ) : Backtracker σ :=
  ⟨b.settings, pattern⟩

/-- The engine over characters for a written pattern. -/
def ofChars (b : SearchBuilder) (text : List Char) : Except PatternError (Backtracker Char) :=
  (Pattern.ofChars b.reserved text).map (ofPattern b)

/-- The engine over bytes for a written pattern. -/
def ofBytes (b : SearchBuilder) (text : List UInt8) : Except PatternError (Backtracker UInt8) :=
  (Pattern.ofBytes b.reserved text).map (ofPattern b)

/-- How many symbols have been consumed and how many tokens have been passed. -/
structure State where
  consumed : Nat
  passed : Nat
  deriving DecidableEq, Repr

/-- The verdicts found so far. -/
abbrev Memo := Grid (Option Bool)

/-- The verdict of a state, if it has been found. -/
def Memo.verdict? (memo : Memo) (s : State) : Option Bool :=
  (memo.get? s.consumed s.passed).join

/-- Records the verdict of a state. -/
def Memo.record (memo : Memo) (s : State) (verdict : Bool) : Memo :=
  memo.set s.consumed s.passed (some verdict)

/-- What is learnt by looking at a state once. -/
inductive Step where
  /-- The state's verdict. -/
  | decided (verdict : Bool)
  /-- The state that has to be decided first. -/
  | needs (state : State)
  deriving DecidableEq, Repr

/-- The step of a state whose verdict is that of the given state. -/
def Step.like (memo : Memo) (s : State) : Step :=
  match memo.verdict? s with
  | none => .needs s
  | some verdict => .decided verdict

/-- Looks at a state: decides it from the verdicts found so far, or names the state that has to be
decided first. -/
def step [BEq σ] (tokens : Array (Token σ)) (haystack : Haystack σ) (memo : Memo) (s : State) :
    Step :=
  match tokens[s.passed]? with
  | none => .decided (s.consumed == haystack.length)
  | some token =>
    let accepted := (haystack.get? s.consumed).any token.accepts
    if tokens[s.passed + 1]?.any Token.isStar then
      let skipped : State := ⟨s.consumed, s.passed + 2⟩
      match memo.verdict? skipped with
      | none => .needs skipped
      | some true => .decided true
      | some false =>
        if accepted then .like memo ⟨s.consumed + 1, s.passed⟩ else .decided false
    else if accepted then .like memo ⟨s.consumed + 1, s.passed + 1⟩
    else .decided false

/-- A search under way: the states that wait for a verdict, the verdicts found so far, and how many
states have been evaluated. That number is kept for the log alone, in a signed word of 32 bits, which
wraps around where more of them are evaluated than it can hold. -/
structure Run where
  pending : List State
  memo : Memo
  evaluated : Int32

/-- Looks once at the state in front. A state that already has its verdict is dropped. -/
def Run.advance [BEq σ] (tokens : Array (Token σ)) (haystack : Haystack σ) : Run → Run
  | ⟨[], memo, evaluated⟩ => ⟨[], memo, evaluated⟩
  | ⟨s :: below, memo, evaluated⟩ =>
    match memo.verdict? s with
    | some _ => ⟨below, memo, evaluated⟩
    | none =>
      match step tokens haystack memo s with
      | .decided verdict => ⟨below, memo.record s verdict, evaluated + 1⟩
      | .needs next => ⟨next :: s :: below, memo, evaluated⟩

/-- Advances a run until no state is pending, at most `fuel` times. -/
def Run.finish [BEq σ] (tokens : Array (Token σ)) (haystack : Haystack σ) : Nat → Run → Run
  | 0, run => run
  | fuel + 1, run =>
    match run.pending with
    | [] => run
    | _ :: _ => finish tokens haystack fuel (run.advance tokens haystack)

/-- The scratch space of the backtracker. It keeps what the last search left in it, and it never
gives memory back. -/
structure Cache where
  pending : List State := []
  memo : Memo := .empty
  /-- For how many verdicts memory is held. -/
  room : Nat := 0

/-- Whether the cache holds memory. -/
def Cache.isUsed (c : Cache) : Bool :=
  c.room != 0

/-- A copy has memory for what the cache holds now, and no more. -/
def Cache.copy (c : Cache) : Cache :=
  { c with room := c.memo.size }

/-- Makes the cache ready for a search over a table of the given number of cells and width. -/
def Cache.setup (c : Cache) (cells stride : Nat) : Cache where
  pending := []
  memo := c.memo.clear.resize stride cells none
  room := max c.room cells

/-- A cache that is ready for a search has nothing left of an earlier one but its memory. -/
theorem Cache.setup_eq (c : Cache) (cells stride : Nat) :
    c.setup cells stride = ⟨[], .filled stride cells none, max c.room cells⟩ := by
  rw [setup, Grid.resize_clear]

/-- The run at the start of a search, in a cache that is ready for it. -/
def Run.start (ready : Cache) : Run :=
  ⟨⟨0, 0⟩ :: ready.pending, ready.memo, 0⟩

/-- The finished run of an admitted search. Each cell is looked at no more than twice. -/
def run [BEq σ] (b : Backtracker σ) (haystack : Haystack σ) (ready : Cache) : Run :=
  (Run.start ready).finish b.pattern.tokens.toArray haystack (2 * ready.memo.size)

/-- Whether the whole haystack matches the pattern, using the cache for scratch space. It is taken for
granted here that there is room for the table of an admitted search. -/
def search [BEq σ] (b : Backtracker σ) (cache : Cache) (haystack : Haystack σ) : Outcome Cache :=
  match checkedCellCount haystack.length b.pattern.length b.settings.tableSizeLimit with
  | .error refusal => ⟨.error refusal, cache, []⟩
  | .ok cells =>
    let ready := cache.setup cells (b.pattern.length + 1)
    let finished := b.run haystack ready
    ⟨.ok (finished.memo.verdict? ⟨0, 0⟩ == some true),
      { ready with pending := finished.pending, memo := finished.memo },
      [.backtrackEvaluated finished.evaluated cells]⟩

/-- Whether the whole haystack matches the pattern, using the cache for scratch space. An admitted search
stops its caller if there cannot be room for its table. -/
def searchInRoom [BEq σ] (b : Backtracker σ) (cache : Cache) (haystack : Haystack σ) :
    Except Panic (Outcome Cache) :=
  StarMatch.searchInRoom (b.search cache) b.pattern.length b.settings.tableSizeLimit haystack

/-- Whether the whole haystack matches the pattern, with scratch space of its own. -/
def isMatch [BEq σ] (b : Backtracker σ) (haystack : Haystack σ) : Outcome Cache :=
  b.search {} haystack

end Backtracker

end StarMatch
