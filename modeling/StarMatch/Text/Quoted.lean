import StarMatch.Text.Hex
import StarMatch.Text.Unshown
import StarMatch.Text.Utf8

/-!
# Quoted text

The form in which messages show an argument of unknown content: between double quotes, with double
quotes, backslashes, tabs and line breaks escaped, characters that cannot be seen written by number,
and bytes that spell no character written in hexadecimal.
-/

namespace StarMatch.Text

/-- A character by its number in lowercase hexadecimal. -/
def numbered (c : Char) : List Char :=
  ['\\', 'u', '\x7b'] ++ Nat.toDigits 16 c.toNat ++ ['\x7d']

/-- A character within quotes. -/
def quotedChar (c : Char) : List Char :=
  if c = Char.ofNat 0 then ['\\', '0']
  else if c = '\t' then ['\\', 't']
  else if c = '\r' then ['\\', 'r']
  else if c = '\n' then ['\\', 'n']
  else if c = '"' ∨ c = '\\' then ['\\', c]
  else if isUnshown c then numbered c
  else [c]

/-- A chunk of bytes within quotes. -/
def quotedChunk : Utf8.Chunk → List Char
  | .scalar c => quotedChar c
  | .illFormed bytes => bytes.flatMap fun b => '\\' :: 'x' :: hexByte b

/-- Bytes between quotes. -/
def quoted (bytes : List UInt8) : String :=
  String.ofList ('"' :: ((Utf8.chunks bytes).flatMap quotedChunk ++ ['"']))

end StarMatch.Text
