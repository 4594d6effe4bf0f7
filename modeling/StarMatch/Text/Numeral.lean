import StarMatch.Search.Limit

/-!
# Numerals

A number that fits in a machine word is written in decimal digits, with an optional plus sign in
front. The first character that spoils a numeral from the left decides how it is rejected.
-/

namespace StarMatch.Text

/-- Why a text is no numeral. -/
inductive NumeralError where
  | empty
  | invalidDigit
  /-- The number does not fit in a machine word. -/
  | tooLarge
  deriving DecidableEq, Repr

/-- The message shown to a user. -/
def NumeralError.message : NumeralError → String
  | empty => "cannot parse integer from empty string"
  | invalidDigit => "invalid digit found in string"
  | tooLarge => "number too large to fit in target type"

/-- Reads digits behind those that gave the number so far. -/
def readDigits (sofar : Nat) : List Char → Except NumeralError Nat
  | [] => .ok sofar
  | c :: cs =>
    if c.isDigit then
      let next := 10 * sofar + (c.toNat - '0'.toNat)
      if wordMax < next then .error .tooLarge else readDigits next cs
    else .error .invalidDigit

/-- Reads a numeral. -/
def readNumeral : List Char → Except NumeralError Nat
  | [] => .error .empty
  | ['+'] => .error .invalidDigit
  | '+' :: digits => readDigits 0 digits
  | digits => readDigits 0 digits

end StarMatch.Text
