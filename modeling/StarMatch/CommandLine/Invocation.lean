import StarMatch.CommandLine.Command
import StarMatch.CommandLine.Failure
import StarMatch.CommandLine.Scan
import StarMatch.Matcher.Settings
import StarMatch.Text.Numeral
import StarMatch.Text.Quoted

/-!
# Invocations

The items of a command line are acted upon from left to right, and the first that cannot be acted
upon stops the run. Each flag sets one knob, so the last setting of a knob is the one in force.
-/

namespace StarMatch.CommandLine

/-- The message about an argument that is not UTF-8. -/
def notUnicode (bytes : List UInt8) : String :=
  "argument is invalid unicode: " ++ Text.quoted bytes

/-- The failure that stops a scan. -/
def Stop.failure (c : Command) : Stop → Failure
  | help long => ⟨c.usage long, none⟩
  | unknown name => ⟨"invalid option '" ++ name ++ "'", none⟩
  | unusedValue name value =>
    ⟨"unexpected argument for option '" ++ name ++ "': " ++ Text.quoted value, none⟩
  | missingValue flag name =>
    ⟨flag.title, some ("missing argument for option '" ++ name ++ "'")⟩

namespace Flag

/-- The text of a flag's value. -/
def readText (f : Flag) (value : List UInt8) : Except Failure (List Char) :=
  match Text.Utf8.decode? value with
  | none => .error ⟨f.title, some (notUnicode value)⟩
  | some cs => .ok cs

/-- The text of the value of a flag that cannot be set to none. -/
def readPresent (f : Flag) (value : List UInt8) : Except Failure (List Char) :=
  match f.readText value with
  | .error e => .error e
  | .ok cs =>
    if cs = "none".toList then .error ⟨f.title ++ ": 'none' is not allowed here", none⟩ else .ok cs

/-- The ASCII character that a flag is set to. -/
def readSymbol (f : Flag) (value : List UInt8) : Except Failure UInt8 :=
  match f.readPresent value with
  | .error e => .error e
  | .ok cs =>
    match cs with
    | [c] => if c.toNat < 0x80 then .ok c.toUInt8 else .error (notOneSymbol cs)
    | _ => .error (notOneSymbol cs)
where
  /-- The failure of a value that is not one ASCII character. -/
  notOneSymbol (cs : List Char) : Failure :=
    ⟨f.title ++ ": expected a single ASCII character, but got '" ++ String.ofList cs ++ "'", none⟩

/-- The limit that a flag is set to, which may be none. -/
def readLimit (f : Flag) (value : List UInt8) : Except Failure (Option Nat) :=
  match f.readText value with
  | .error e => .error e
  | .ok cs =>
    if cs = "none".toList then .ok none
    else
      match Text.readNumeral cs with
      | .error e => .error ⟨f.title, some e.message⟩
      | .ok n => .ok (some n)

/-- The engine that a flag is set to. -/
def readEngine (f : Flag) (value : List UInt8) : Except Failure EngineChoice :=
  match f.readPresent value with
  | .error e => .error e
  | .ok cs =>
    match EngineChoice.ofName? (String.ofList cs) with
    | some choice => .ok choice
    | none =>
      .error ⟨"unrecognized engine '" ++ String.ofList cs ++
        "', must be one of auto, backtrack or table", none⟩

end Flag

/-- What a command line asks for. -/
structure Invocation where
  quiet : Bool := false
  verbose : Bool := false
  reserved : ReservedSymbols := {}
  settings : MatcherSettings := {}
  operands : List String := []
  deriving DecidableEq, Repr

namespace Invocation

/-- The invocation with one more operand, where a command that shows something allows only one. -/
def addOperand (c : Command) (i : Invocation) (value : List UInt8) : Except Failure Invocation :=
  if c ≠ .search ∧ i.operands ≠ [] then .error ⟨"only one pattern is allowed", none⟩
  else
    match Text.Utf8.decode? value with
    | none => .error ⟨notUnicode value, none⟩
    | some cs => .ok { i with operands := i.operands ++ [String.ofList cs] }

/-- Acts upon a flag without a value. -/
def toggle (i : Invocation) : Flag → Invocation
  | .quiet => { i with quiet := true }
  | .verbose => { i with verbose := true }
  | .noPrefilter => { i with settings := { i.settings with prefilter? := some false } }
  | _ => i

/-- Acts upon a flag with a value. -/
def set (i : Invocation) (f : Flag) (value : List UInt8) : Except Failure Invocation :=
  match f with
  | .wildcard =>
    (f.readSymbol value).map fun b => { i with reserved := { i.reserved with wildcard? := some b } }
  | .repetition =>
    (f.readSymbol value).map fun b => { i with reserved := { i.reserved with repetition? := some b } }
  | .engine =>
    (f.readEngine value).map fun e => { i with settings := { i.settings with engine? := some e } }
  | .tableSizeLimit =>
    (f.readLimit value).map fun n =>
      { i with settings := { i.settings with tableSizeLimit? := some n } }
  | .quiet | .verbose | .noPrefilter => .ok i

/-- Acts upon one item. -/
def act (c : Command) (i : Invocation) : Item → Except Failure Invocation
  | .toggle f => .ok (i.toggle f)
  | .setting f value => i.set f value
  | .operand value => i.addOperand c value

/-- Acts upon items from left to right. -/
def actAll (c : Command) (i : Invocation) : List Item → Except Failure Invocation
  | [] => .ok i
  | item :: items =>
    match i.act c item with
    | .error e => .error e
    | .ok next => actAll c next items

/-- What the arguments behind a command ask for. -/
def ofScan (c : Command) (s : Scan) : Except Failure Invocation :=
  match actAll c {} s.items, s.stop? with
  | .error e, _ => .error e
  | .ok _, some reason => .error (reason.failure c)
  | .ok i, none => .ok i

end Invocation

end StarMatch.CommandLine
