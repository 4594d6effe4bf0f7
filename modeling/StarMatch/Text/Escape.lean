import StarMatch.Text.Hex
import StarMatch.Text.Utf8

/-!
# Escapes

Bytes are shown as text in which the characters that they spell stand for themselves, except for
backslashes, control bytes and bytes that spell no character, which are escaped. Reading such a text
back resolves the escapes and keeps anything else that follows a backslash, backslash included.
-/

namespace StarMatch.Text

/-- A byte shown by itself if it is printable ASCII, and escaped otherwise. -/
def escapeByte (b : UInt8) : List Char :=
  if b = 0x0A then ['\\', 'n']
  else if b = 0x0D then ['\\', 'r']
  else if b = 0x09 then ['\\', 't']
  else if b = 0x5C then ['\\', '\\']
  else if 0x20 ≤ b ∧ b ≤ 0x7E then [Char.ofUInt8 b]
  else '\\' :: 'x' :: hexByte b

/-- A chunk of bytes shown as text: characters beyond ASCII stand for themselves. -/
def escapeChunk : Utf8.Chunk → List Char
  | .scalar c => if c.toNat < 0x80 then escapeByte c.toUInt8 else [c]
  | .illFormed bytes => bytes.flatMap escapeByte

/-- Bytes shown as text. -/
def escape (bytes : List UInt8) : List Char :=
  (Utf8.chunks bytes).flatMap escapeChunk

/-- The byte that a letter behind a backslash stands for. -/
def escapedLetter? (letter : UInt8) : Option UInt8 :=
  if letter = 0x5C then some 0x5C
  else if letter = 0x6E then some 0x0A
  else if letter = 0x72 then some 0x0D
  else if letter = 0x74 then some 0x09
  else none

/-- The byte that two hexadecimal digits stand for. -/
def hexPair? (high low : UInt8) : Option UInt8 :=
  match hexValue? high, hexValue? low with
  | some h, some l => some (16 * h + l)
  | _, _ => none

/-- Resolves the escapes in a text given as bytes. -/
def unescape : List UInt8 → List UInt8
  | [] => []
  | [b] => [b]
  | b :: c :: rest =>
    if b ≠ 0x5C then b :: unescape (c :: rest)
    else if c = 0x78 then
      match rest with
      | high :: low :: rest' =>
        match hexPair? high low with
        | some value => value :: unescape rest'
        | none => b :: c :: unescape (high :: low :: rest')
      | [last] => [b, c, last]
      | [] => [b, c]
    else
      match escapedLetter? c with
      | some value => value :: unescape rest
      | none => b :: c :: unescape rest

end StarMatch.Text
