import StarMatch.Suite.Case

/-!
# Suites as documents

A suite is written as a document of nested values. It can be read only if it holds a list of tests,
each a table that has a pattern, has no entry of an unknown name, and has values of the right kind
throughout.
-/

namespace StarMatch.Suite

/-- A value in a document. -/
inductive Value where
  | text (s : String)
  | integer (n : Int)
  | flag (b : Bool)
  | list (items : List Value)
  | table (entries : List (String × Value))
  /-- A value of any other kind. -/
  | other

namespace Value

/-- The byte that a value stands for. -/
def byte? : Value → Option UInt8
  | integer n => if 0 ≤ n ∧ n ≤ 255 then some (UInt8.ofNat n.toNat) else none
  | _ => none

/-- The bytes that a value stands for, given as a text or as a list of numbers. -/
def bytes? : Value → Option (List UInt8)
  | text s => some (Text.Utf8.encode s.toList)
  | list items => items.mapM byte?
  | _ => none

/-- The text of a value. -/
def text? : Value → Option String
  | text s => some s
  | _ => none

/-- The truth value of a value. -/
def flag? : Value → Option Bool
  | flag b => some b
  | _ => none

end Value

/-- The names that the entries of a test may have. -/
def Draft.entryNames : List String :=
  ["name", "pattern", "input", "match", "compiles", "unescape"]

/-- The entry of a name, read with the given function, or the default where there is no entry. -/
def entryOr {α : Type} (entries : List (String × Value)) (name : String) (default : α)
    (read : Value → Option α) : Option α :=
  match entries.lookup name with
  | none => some default
  | some v => read v

/-- The draft that a table of entries spells. -/
def Draft.ofEntries? (entries : List (String × Value)) : Option Draft :=
  if entries.all fun (key, _) => entryNames.contains key then do
    let name ← entryOr entries "name" "" Value.text?
    let pattern ← (← entries.lookup "pattern").bytes?
    let input ← entryOr entries "input" [] Value.bytes?
    let expected? ← entryOr entries "match" none fun v => v.flag?.map some
    let compiles ← entryOr entries "compiles" true Value.flag?
    let unescape ← entryOr entries "unescape" false Value.flag?
    return { name, pattern, input, expected?, compiles, unescape }
  else none

/-- The draft that a value spells. -/
def Draft.ofValue? : Value → Option Draft
  | .table entries => ofEntries? entries
  | _ => none

/-- The text of a suite, as far as loading it is concerned. -/
inductive Document where
  /-- A text that is no document. -/
  | garbled
  /-- A document with its tests, if it has that entry. -/
  | holding (tests : Option Value)

/-- The drafts in a document. -/
def Document.drafts? : Document → Option (List Draft)
  | holding (some (.list items)) => items.mapM Draft.ofValue?
  | _ => none

end StarMatch.Suite
