import StarMatch.CommandLine.Show

/-!
# The program

The first argument names a command, and for the commands that show things the second one says what
is to be shown. The other arguments belong to that command.
-/

namespace StarMatch.CommandLine

/-- The command word at the front of a list of arguments, and the arguments behind it as they are to
be scanned: two dashes in front of the word make operands of all of them. -/
def commandWord (usage : String) (onlyOperands : Bool) :
    List (List UInt8) → Except Failure (String × Bool × List (List UInt8))
  | [] => .error ⟨usage, none⟩
  | arg :: args =>
    let word (onlyOperands : Bool) (bytes : List UInt8) (args : List (List UInt8)) :
        Except Failure (String × Bool × List (List UInt8)) :=
      match Text.Utf8.decode? bytes with
      | none => .error ⟨notUnicode bytes, none⟩
      | some cs => .ok (String.ofList cs, onlyOperands, args)
    if onlyOperands then word true arg args
    else
      match (readArgument [] arg).ending, args with
      | .separator, [] => .error ⟨usage, none⟩
      | .separator, arg :: args => word true arg args
      | .stop (.help _), _ => .error ⟨usage, none⟩
      | .stop reason, _ => .error (reason.failure .search)
      | _, _ => word false arg args

/-- The scan of the arguments of a command. -/
def scanFor (c : Command) (onlyOperands : Bool) (args : List (List UInt8)) : Scan :=
  if onlyOperands then { items := args.map .operand } else scan c.flags args

/-- Runs a command as an invocation says. -/
def Invocation.runAs (i : Invocation) : Command → Outcome
  | .search => i.runMatch
  | .showPattern => i.runShowPattern
  | .showMatcher => i.runShowMatcher

/-- Runs a command with its arguments. -/
def Command.run (c : Command) (onlyOperands : Bool) (args : List (List UInt8)) : Outcome :=
  match Invocation.ofScan c (scanFor c onlyOperands args) with
  | .error e => .failed e
  | .ok i => i.runAs c

/-- The failure of a command word that names nothing. -/
def unrecognized (word : String) : Failure :=
  ⟨"unrecognized command '" ++ word ++ "'", none⟩

/-- Runs a command that shows something. -/
def runDebug (onlyOperands : Bool) (args : List (List UInt8)) : Outcome :=
  match commandWord debugUsage onlyOperands args with
  | .error e => .failed e
  | .ok ("pattern", onlyOperands, args) => Command.showPattern.run onlyOperands args
  | .ok ("regex", onlyOperands, args) => Command.showMatcher.run onlyOperands args
  | .ok (word, _, _) => .failed (unrecognized word)

/-- Runs the program with its arguments. -/
def runProgram (args : List (List UInt8)) : Outcome :=
  match commandWord programUsage false args with
  | .error e => .failed e
  | .ok ("debug", onlyOperands, args) => runDebug onlyOperands args
  | .ok ("match", onlyOperands, args) => Command.search.run onlyOperands args
  | .ok (word, _, _) => .failed (unrecognized word)

end StarMatch.CommandLine
