/-!
# Durations

A duration is shown in the largest unit of which it has at least one, with as many decimals as it
takes to show it exactly.
-/

namespace StarMatch.Text

/-- The decimals of a fraction given by its numerator and the number of digits of its denominator, a
power of ten, without zeros at the end. -/
def decimals (digits numerator : Nat) : List Char :=
  let written := Nat.toDigits 10 numerator
  let padded := List.replicate (digits - written.length) '0' ++ written
  (padded.reverse.dropWhile (· = '0')).reverse

/-- A number of nanoseconds shown in a unit of ten to the given power of them. -/
def inUnit (nanoseconds digits : Nat) (name : String) : String :=
  let unit := Nat.pow 10 digits
  let fraction := decimals digits (nanoseconds % unit)
  toString (nanoseconds / unit) ++
    (if fraction.isEmpty then "" else "." ++ String.ofList fraction) ++ name

/-- A number of nanoseconds. -/
def showDuration (nanoseconds : Nat) : String :=
  if 1000000000 ≤ nanoseconds then inUnit nanoseconds 9 "s"
  else if 1000000 ≤ nanoseconds then inUnit nanoseconds 6 "ms"
  else if 1000 ≤ nanoseconds then inUnit nanoseconds 3 "µs"
  else toString nanoseconds ++ "ns"

end StarMatch.Text
