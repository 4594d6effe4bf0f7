import StarMatch.Text.Hex

/-!
# Byte literals

The form in which error messages show a reserved symbol: `b'a'`, `b'\n'`, `b'\xFF'`. Printable
ASCII stands for itself, quotes and backslashes are escaped, and the rest is written in
hexadecimal.
-/

namespace StarMatch.Text

/-- The characters between the quotes of a byte literal. -/
def byteLiteralBody (b : UInt8) : List Char :=
  if b = 0x09 then ['\\', 't']
  else if b = 0x0A then ['\\', 'n']
  else if b = 0x0D then ['\\', 'r']
  else if b = 0x22 ∨ b = 0x27 ∨ b = 0x5C then ['\\', Char.ofUInt8 b]
  else if 0x20 ≤ b ∧ b ≤ 0x7E then [Char.ofUInt8 b]
  else '\\' :: 'x' :: hexByte b

/-- A byte between quotes, with a leading `b`. -/
def byteLiteral (b : UInt8) : String :=
  String.ofList ('b' :: '\'' :: (byteLiteralBody b ++ ['\'']))

end StarMatch.Text
