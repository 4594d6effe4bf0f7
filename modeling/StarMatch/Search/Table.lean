import StarMatch.Search.Builder
import StarMatch.Search.Grid
import StarMatch.Search.Room

/-!
# The table engine

The table engine fills a grid in which the cell in row `i` and column `j` says whether the first `i`
symbols match the pattern made of the first `j` tokens. Every cell follows from cells to its left
and above it, so the rows are filled from the top and each from the left. The first row is filled by
the same rule as the others, with atoms that accept nothing.
-/

namespace StarMatch

universe u

variable {σ : Type u}

/-- A table engine for one pattern. -/
structure TableMatcher (σ : Type u) where
  settings : SearchSettings := {}
  pattern : Pattern σ

namespace TableMatcher

/-- The engine that a builder makes for a pattern. -/
def ofPattern (b : SearchBuilder) (pattern : Pattern σ) : TableMatcher σ :=
  ⟨b.settings, pattern⟩

/-- The engine over characters for a written pattern. -/
def ofChars (b : SearchBuilder) (text : List Char) : Except PatternError (TableMatcher Char) :=
  (Pattern.ofChars b.reserved text).map (ofPattern b)

/-- The engine over bytes for a written pattern. -/
def ofBytes (b : SearchBuilder) (text : List UInt8) : Except PatternError (TableMatcher UInt8) :=
  (Pattern.ofBytes b.reserved text).map (ofPattern b)

/-- The cells found so far. -/
abbrev Table := Grid Bool

/-- Whether a cell has been found to hold. -/
def Table.holds (table : Table) (row column : Nat) : Bool :=
  (table.get? row column).getD false

/-- The content of a cell whose column ends in the given token. A star takes its atom no more times,
or once more for the symbol of the row; another token takes the symbol of the row. -/
def cell (accepts : Token σ → Bool) (table : Table) (row column : Nat) (previous : Option (Token σ))
    (token : Token σ) : Bool :=
  if token.isStar then
    table.holds row (column - 2) || (previous.any accepts && table.holds (row - 1) column)
  else
    accepts token && table.holds (row - 1) (column - 1)

/-- Fills a row from the given column on, one cell per remaining token. -/
def fillRow (accepts : Token σ → Bool) (row : Nat) :
    Nat → Option (Token σ) → List (Token σ) → Table → Table
  | _, _, [], table => table
  | column, previous, token :: rest, table =>
    fillRow accepts row (column + 1) (some token) rest
      (table.set row column (cell accepts table row column previous token))

/-- Fills the row behind the given symbol of the haystack. -/
def fillSymbolRow [BEq σ] (tokens : List (Token σ)) (symbol : σ) (row : Nat) (table : Table) :
    Table :=
  fillRow (fun token => token.accepts symbol) row 1 none tokens table

/-- Fills the table of a search, from one whose cells are all false. -/
def fill [BEq σ] (m : TableMatcher σ) (haystack : Haystack σ) (blank : Table) : Table :=
  let first := fillRow (fun _ => false) 0 1 none m.pattern.tokens (blank.set 0 0 true)
  haystack.length.fold
    (fun i hi table => fillSymbolRow m.pattern.tokens (haystack.symbolAt ⟨i, hi⟩) (i + 1) table)
    first

/-- The scratch space of the table engine. It keeps what the last search left in it, and it never
gives memory back. -/
structure Cache where
  table : Table := .empty
  /-- For how many cells memory is held. -/
  room : Nat := 0

/-- Whether the cache holds memory. -/
def Cache.isUsed (c : Cache) : Bool :=
  c.room != 0

/-- A copy has memory for what the cache holds now, and no more. -/
def Cache.copy (c : Cache) : Cache :=
  { c with room := c.table.size }

/-- Makes the cache ready for a search over a table of the given number of cells and width. -/
def Cache.setup (c : Cache) (cells stride : Nat) : Cache where
  table := c.table.clear.resize stride cells false
  room := max c.room cells

/-- A cache that is ready for a search has nothing left of an earlier one but its memory. -/
theorem Cache.setup_eq (c : Cache) (cells stride : Nat) :
    c.setup cells stride = ⟨.filled stride cells false, max c.room cells⟩ := by
  rw [setup, Grid.resize_clear]

/-- Whether the whole haystack matches the pattern, using the cache for scratch space. It is taken for
granted here that there is room for the table of an admitted search. -/
def search [BEq σ] (m : TableMatcher σ) (cache : Cache) (haystack : Haystack σ) : Outcome Cache :=
  match checkedCellCount haystack.length m.pattern.length m.settings.tableSizeLimit with
  | .error refusal => ⟨.error refusal, cache, []⟩
  | .ok cells =>
    let ready := cache.setup cells (m.pattern.length + 1)
    let table := m.fill haystack ready.table
    ⟨.ok (table.holds haystack.length m.pattern.length), { ready with table := table },
      [.tableFilled cells]⟩

/-- Whether the whole haystack matches the pattern, using the cache for scratch space. An admitted search
stops its caller if there cannot be room for its table. -/
def searchInRoom [BEq σ] (m : TableMatcher σ) (cache : Cache) (haystack : Haystack σ) :
    Except Panic (Outcome Cache) :=
  StarMatch.searchInRoom (m.search cache) m.pattern.length m.settings.tableSizeLimit haystack

/-- Whether the whole haystack matches the pattern, with scratch space of its own. -/
def isMatch [BEq σ] (m : TableMatcher σ) (haystack : Haystack σ) : Outcome Cache :=
  m.search {} haystack

end TableMatcher

end StarMatch
