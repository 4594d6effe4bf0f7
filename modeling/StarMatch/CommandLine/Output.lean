import StarMatch.CommandLine.Failure

/-!
# Output

What a run prints is a sequence of texts and of durations that are known only when it has run. A
table has right-aligned labels and its values behind them.
-/

namespace StarMatch.CommandLine

/-- A piece of output. -/
inductive Piece where
  | text (s : String)
  /-- The time that something took. -/
  | duration
  deriving DecidableEq, Repr

/-- What a run printed, and its failure or whether it was a success. -/
structure Outcome where
  output : List Piece := []
  result : Except Failure Bool

namespace Outcome

/-- The outcome of a run that fails before it prints anything. -/
def failed (f : Failure) : Outcome :=
  ⟨[], .error f⟩

/-- The outcome with more output in front. -/
def prepend (pieces : List Piece) (o : Outcome) : Outcome :=
  ⟨pieces ++ o.output, o.result⟩

/-- The exit status: 2 for a failure, and otherwise 0 or 1. -/
def status (o : Outcome) : Nat :=
  match o.result with
  | .error _ => 2
  | .ok true => 0
  | .ok false => 1

/-- What is written about a failure, in detail or on one line. -/
def errors (o : Outcome) (inDetail : Bool) : String :=
  match o.result with
  | .error f => (if inDetail then f.detailed else f.brief) ++ "\n"
  | .ok _ => ""

end Outcome

/-- The text of a piece of output, given that of a duration. -/
def Piece.render (duration : String) : Piece → String
  | text s => s
  | .duration => duration

/-- The text of a sequence of pieces, given that of a duration. -/
def renderPieces (duration : String) (pieces : List Piece) : String :=
  String.join (pieces.map (Piece.render duration))

/-- A row of a table whose longest label has the given length. -/
def tableRow (width : Nat) (label : String) (value : Piece) : List Piece :=
  let padding := String.ofList (List.replicate (width - label.length) ' ')
  [.text (padding ++ label ++ ":  "), value, .text "\n"]

/-- A table of labels and values. -/
def table (rows : List (String × Piece)) : List Piece :=
  let width := (rows.map fun (label, _) => label.length).foldl max 0
  rows.flatMap fun (label, value) => tableRow width label value

/-- A number in a table. -/
def Piece.ofNat (n : Nat) : Piece :=
  .text (toString n)

/-- A truth value in a table. -/
def Piece.ofBool : Bool → Piece
  | true => .text "true"
  | false => .text "false"

/-- A name in a table. -/
def Piece.ofName (name : String) : Piece :=
  .text ("\"" ++ name ++ "\"")

end StarMatch.CommandLine
