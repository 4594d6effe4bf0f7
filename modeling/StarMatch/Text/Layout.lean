/-!
# Structured values as text

A value is shown by its structure: records with named fields, constructors with arguments, and
lists, around atoms that are shown as they are. The compact form stands on one line. The indented
form gives every field, argument and element a line of its own, four columns further in, with a
comma behind it.
-/

namespace StarMatch.Text

/-- The structure of a value. -/
inductive Layout where
  /-- A text that is shown as it is. -/
  | atom (text : String)
  /-- A constructor with at least one argument. -/
  | variant (name : String) (arguments : List Layout)
  /-- A record with at least one field. -/
  | record (name : String) (fields : List (String × Layout))
  | list (items : List Layout)

namespace Layout

/-- A number. -/
def ofNat (n : Nat) : Layout :=
  atom (toString n)

/-- An optional value. -/
def ofOption {α : Type} (f : α → Layout) : Option α → Layout
  | none => atom "None"
  | some a => variant "Some" [f a]

/-- The spaces before a line at the given depth. -/
def indentation (depth : Nat) : String :=
  String.ofList (List.replicate (4 * depth) ' ')

mutual

/-- The compact form. -/
def compact : Layout → String
  | atom text => text
  | variant name arguments => name ++ "(" ++ ", ".intercalate (compactItems arguments) ++ ")"
  | record name fields =>
    name ++ " \x7b " ++ ", ".intercalate (compactFields fields) ++ " \x7d"
  | list items => "[" ++ ", ".intercalate (compactItems items) ++ "]"

/-- The compact forms of the members of a list. -/
def compactItems : List Layout → List String
  | [] => []
  | item :: items => compact item :: compactItems items

/-- The compact forms of fields, each behind its name. -/
def compactFields : List (String × Layout) → List String
  | [] => []
  | (key, value) :: fields => (key ++ ": " ++ compact value) :: compactFields fields

end

mutual

/-- The indented form of a value that begins on a line at the given depth. -/
def indented (depth : Nat) : Layout → String
  | atom text => text
  | variant name arguments =>
    name ++ "(\n" ++ indentedItems (depth + 1) arguments ++ indentation depth ++ ")"
  | record name fields =>
    name ++ " \x7b\n" ++ indentedFields (depth + 1) fields ++ indentation depth ++ "\x7d"
  | list [] => "[]"
  | list (item :: items) =>
    "[\n" ++ indentedItems (depth + 1) (item :: items) ++ indentation depth ++ "]"

/-- The lines of the members of a list. -/
def indentedItems (depth : Nat) : List Layout → String
  | [] => ""
  | item :: items =>
    indentation depth ++ indented depth item ++ ",\n" ++ indentedItems depth items

/-- The lines of fields, each behind its name. -/
def indentedFields (depth : Nat) : List (String × Layout) → String
  | [] => ""
  | (key, value) :: fields =>
    indentation depth ++ key ++ ": " ++ indented depth value ++ ",\n" ++
      indentedFields depth fields

end

end Layout

end StarMatch.Text
