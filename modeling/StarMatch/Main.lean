import StarMatch.CommandLine.Program
import StarMatch.Text.Duration

/-!
# The executable

Runs the program on the arguments of the process, writes what it prints, and ends with its exit
status. Every duration shown is the time that the whole run took.
-/

open StarMatch in
/-- Runs the program. -/
def main (args : List String) : IO UInt32 := do
  let inDetail := (← IO.getEnv "RUST_BACKTRACE") == some "1"
  let start ← IO.monoNanosNow
  let outcome := CommandLine.runProgram (args.map fun arg => Text.Utf8.encode arg.toList)
  let status := UInt32.ofNat outcome.status
  let stop ← IO.monoNanosNow
  let stdout ← IO.getStdout
  stdout.putStr (CommandLine.renderPieces (Text.showDuration (stop - start)) outcome.output)
  stdout.flush
  let stderr ← IO.getStderr
  stderr.putStr (outcome.errors inDetail)
  return status
