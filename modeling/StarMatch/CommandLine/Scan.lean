import StarMatch.CommandLine.Flag
import StarMatch.Text.Utf8

/-!
# Scanning arguments

Arguments are byte strings. One that begins with two dashes names a flag by its long name, and may
hold a value behind an equals sign. One that begins with a single dash and is longer holds letters,
each naming a flag; what stands behind a letter that takes a value is that value. A flag that takes
a value and has none in its own argument takes the next argument. Two dashes alone end the flags.
Anything else is an operand.

Scanning stops at the first request for help and at the first error. What stands in front of an
error is kept, since it is acted upon before the error shows.
-/

namespace StarMatch.CommandLine

/-- What a list of arguments is made of. -/
inductive Item where
  /-- A flag without a value. -/
  | toggle (flag : Flag)
  /-- A flag with a value. -/
  | setting (flag : Flag) (value : List UInt8)
  | operand (value : List UInt8)
  deriving DecidableEq, Repr

/-- Why scanning stops before the end. -/
inductive Stop where
  /-- Help is asked for, in its long form or not. -/
  | help (long : Bool)
  /-- No flag has that name. -/
  | unknown (name : String)
  /-- A flag that takes no value was given one. -/
  | unusedValue (name : String) (value : List UInt8)
  /-- A flag that takes a value was given none. -/
  | missingValue (flag : Flag) (name : String)
  deriving DecidableEq, Repr

/-- How an argument ends. -/
inductive Ending where
  /-- Scanning goes on with the next argument. -/
  | complete
  /-- Only operands follow. -/
  | separator
  /-- The next argument is the value of a flag. -/
  | wantsValue (flag : Flag) (name : String)
  /-- Scanning stops. -/
  | stop (reason : Stop)
  deriving DecidableEq, Repr

/-- The items in one argument, and how it ends. -/
structure Reading where
  items : List Item := []
  ending : Ending := .complete
  deriving DecidableEq, Repr

/-- The dash. -/
def dash : UInt8 := 0x2D

/-- The equals sign. -/
def equalsSign : UInt8 := 0x3D

/-- Reads a long flag, given what stands behind its dashes. -/
def readLong (flags : List Flag) (body : List UInt8) : Reading :=
  let nameBytes := body.takeWhile (· != equalsSign)
  let value? := (body.drop nameBytes.length).tail?
  let name := String.ofList (Text.Utf8.decodeLossy nameBytes)
  if name = "help" then { ending := .stop (.help true) }
  else
    match flags.find? (·.long == name), value? with
    | none, _ => { ending := .stop (.unknown ("--" ++ name)) }
    | some flag, none =>
      if flag.takesValue then { ending := .wantsValue flag ("--" ++ name) }
      else { items := [.toggle flag] }
    | some flag, some value =>
      if flag.takesValue then { items := [.setting flag value] }
      else ⟨[.toggle flag], .stop (.unusedValue ("--" ++ name) value)⟩

/-- Reads letters that stand behind a dash. A value may have an equals sign in front of it. -/
def readLetters (flags : List Flag) : List UInt8 → Reading
  | [] => {}
  | lead :: tail =>
    let trail := Text.Utf8.trail lead tail
    let letter := (Text.Utf8.Chunk.ofTrail lead trail).shown
    let name := "-" ++ String.singleton letter
    let rest := tail.drop trail.length
    if letter = 'h' then { ending := .stop (.help false) }
    else
      match flags.find? (·.short? == some letter) with
      | none => { ending := .stop (.unknown name) }
      | some flag =>
        if flag.takesValue then
          if rest.isEmpty then { ending := .wantsValue flag name }
          else if rest.head? = some equalsSign then { items := [.setting flag rest.tail] }
          else { items := [.setting flag rest] }
        else if rest.head? = some equalsSign then
          ⟨[.toggle flag], .stop (.unusedValue name rest.tail)⟩
        else
          let others := readLetters flags rest
          ⟨.toggle flag :: others.items, others.ending⟩
termination_by letters => letters.length
decreasing_by
  simp only [List.length_drop, List.length_cons]
  omega

/-- Reads one argument. -/
def readArgument (flags : List Flag) (arg : List UInt8) : Reading :=
  match arg with
  | first :: second :: rest =>
    if first ≠ dash then { items := [.operand arg] }
    else if second ≠ dash then readLetters flags (second :: rest)
    else if rest.isEmpty then { ending := .separator }
    else readLong flags rest
  | _ => { items := [.operand arg] }

/-- The items found, and why scanning stopped if it did not reach the end. -/
structure Scan where
  items : List Item := []
  stop? : Option Stop := none
  deriving DecidableEq, Repr

/-- The scan that finds more items in front. -/
def Scan.prepend (items : List Item) (s : Scan) : Scan :=
  ⟨items ++ s.items, s.stop?⟩

/-- Scans arguments for the given flags. -/
def scan (flags : List Flag) : List (List UInt8) → Scan
  | [] => {}
  | arg :: args =>
    let reading := readArgument flags arg
    match reading.ending, args with
    | .complete, args => (scan flags args).prepend reading.items
    | .separator, args => { items := reading.items ++ args.map .operand }
    | .wantsValue flag _, value :: args =>
      (scan flags args).prepend (reading.items ++ [.setting flag value])
    | .wantsValue flag name, [] => ⟨reading.items, some (.missingValue flag name)⟩
    | .stop reason, _ => ⟨reading.items, some reason⟩

end StarMatch.CommandLine
