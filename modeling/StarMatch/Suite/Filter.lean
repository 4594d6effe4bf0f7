import StarMatch.Text.Blank
import StarMatch.Text.Utf8

/-!
# Filters

A filter names a text and says whether the cases whose full names contain it are wanted. Of several
filters, the last one whose text occurs in a name decides. Where none does, a case is run unless
some filter asks for wanted cases.
-/

namespace StarMatch.Suite

/-- A text, and whether the cases that contain it in their names are wanted. -/
structure Filter where
  wanted : Bool
  text : List Char
  deriving DecidableEq, Repr

/-- Whether a list occurs in another as a run of consecutive elements. -/
def occursIn (needle : List Char) : List Char → Bool
  | [] => needle.isEmpty
  | c :: cs => needle.isPrefixOf (c :: cs) || occursIn needle cs

/-- The pieces of a text between commas. -/
def splitAtCommas : List Char → List (List Char)
  | [] => [[]]
  | c :: cs =>
    if c = ',' then [] :: splitAtCommas cs
    else
      match splitAtCommas cs with
      | [] => [[c]]
      | piece :: pieces => (c :: piece) :: pieces

namespace Filter

/-- The filter that an item of a list spells, where a leading minus sign means that cases are not
wanted. An item of nothing but white space spells none. -/
def ofItem? (item : List Char) : Option Filter :=
  match Text.trim item with
  | [] => none
  | '-' :: text => some ⟨false, text⟩
  | text => some ⟨true, text⟩

/-- The filters in a list separated by commas. -/
def ofList (cs : List Char) : List Filter :=
  (splitAtCommas cs).filterMap ofItem?

/-- Whether filters let the case of the given name run. -/
def allow (filters : List Filter) (name : List Char) : Bool :=
  filters.foldl (fun allowed f => if occursIn f.text name then f.wanted else allowed)
    (!filters.any Filter.wanted)

end Filter

/-- The variable that holds filters has a value that is not UTF-8. -/
structure FilterError where
  value : List UInt8
  deriving DecidableEq, Repr

/-- The message shown to a user, with the bytes of the value in decimal. -/
def FilterError.message (e : FilterError) : String :=
  "invalid UTF-8 in env var REGEX_TEST=[" ++
    ", ".intercalate (e.value.map fun b => toString b.toNat) ++ "]"

/-- The filters in the value of a variable, none if it is not set. -/
def Filter.ofVariable : Option (List UInt8) → Except FilterError (List Filter)
  | none => .ok []
  | some value =>
    match Text.Utf8.decode? value with
    | none => .error ⟨value⟩
    | some cs => .ok (ofList cs)

end StarMatch.Suite
