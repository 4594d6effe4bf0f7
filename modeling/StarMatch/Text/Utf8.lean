/-!
# UTF-8

Characters as bytes, and bytes as characters. Bytes that are not UTF-8 are cut into chunks: a chunk
is either one character or an ill-formed piece, which is a byte that cannot begin a character or the
longest beginning of a character that the bytes behind it do not complete.
-/

namespace StarMatch.Text.Utf8

/-- The bytes of a list of characters. -/
def encode (cs : List Char) : List UInt8 :=
  cs.flatMap String.utf8EncodeChar

/-- The ranges in which the bytes behind a lead byte must lie, one range for each, or nothing for a
byte that begins no character. The narrow ranges keep out overlong forms, surrogates, and values
beyond the last character. -/
def trailRanges? (lead : UInt8) : Option (List (UInt8 × UInt8)) :=
  if lead < 0x80 then some []
  else if lead < 0xC2 then none
  else if lead < 0xE0 then some [(0x80, 0xBF)]
  else if lead = 0xE0 then some [(0xA0, 0xBF), (0x80, 0xBF)]
  else if lead = 0xED then some [(0x80, 0x9F), (0x80, 0xBF)]
  else if lead < 0xF0 then some [(0x80, 0xBF), (0x80, 0xBF)]
  else if lead = 0xF0 then some [(0x90, 0xBF), (0x80, 0xBF), (0x80, 0xBF)]
  else if lead < 0xF4 then some [(0x80, 0xBF), (0x80, 0xBF), (0x80, 0xBF)]
  else if lead = 0xF4 then some [(0x80, 0x8F), (0x80, 0xBF), (0x80, 0xBF)]
  else none

/-- The longest beginning of a list of bytes that lies in the given ranges, one byte in each. -/
def takeWithin : List (UInt8 × UInt8) → List UInt8 → List UInt8
  | (low, high) :: ranges, b :: bs =>
    if low ≤ b ∧ b ≤ high then b :: takeWithin ranges bs else []
  | _, _ => []

/-- The bytes that belong to a lead byte. -/
def trail (lead : UInt8) (rest : List UInt8) : List UInt8 :=
  takeWithin ((trailRanges? lead).getD []) rest

/-- The number whose bits are those that a lead byte and its trail carry. -/
def scalarValue (lead : UInt8) (trail : List UInt8) : Nat :=
  let leadBits := if trail.isEmpty then lead.toNat else lead.toNat % (1 <<< (6 - trail.length))
  trail.foldl (fun n b => n * 64 + b.toNat % 64) leadBits

/-- A piece of a list of bytes. -/
inductive Chunk where
  | scalar (c : Char)
  | illFormed (bytes : List UInt8)
  deriving DecidableEq, Repr

namespace Chunk

/-- The chunk made of a lead byte and its trail. -/
def ofTrail (lead : UInt8) (trail : List UInt8) : Chunk :=
  if (trailRanges? lead).any (·.length == trail.length) then
    scalar (Char.ofNat (scalarValue lead trail))
  else illFormed (lead :: trail)

/-- The character of a well-formed chunk. -/
def scalar? : Chunk → Option Char
  | scalar c => some c
  | illFormed _ => none

/-- The character of a chunk, or the replacement character. -/
def shown : Chunk → Char
  | scalar c => c
  | illFormed _ => Char.ofNat 0xFFFD

end Chunk

/-- Cuts a list of bytes into chunks. -/
def chunks : List UInt8 → List Chunk
  | [] => []
  | lead :: rest =>
    Chunk.ofTrail lead (trail lead rest) :: chunks (rest.drop (trail lead rest).length)
termination_by bytes => bytes.length
decreasing_by
  simp only [List.length_drop, List.length_cons]
  omega

/-- The characters that a list of bytes spells, if it is well-formed throughout. -/
def decode? (bytes : List UInt8) : Option (List Char) :=
  (chunks bytes).mapM Chunk.scalar?

/-- The characters that a list of bytes spells, with a replacement character for each ill-formed
piece. -/
def decodeLossy (bytes : List UInt8) : List Char :=
  (chunks bytes).map Chunk.shown

end StarMatch.Text.Utf8
