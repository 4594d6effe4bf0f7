import StarMatch.Text.Escape

/-!
# Test cases

A case of a suite gives a pattern, an input and what to expect: that the pattern matches the whole
input, that it does not, or that it is rejected. A draft is a case as it is written down, where the
name may be left out and pattern and input may be escaped.
-/

namespace StarMatch.Suite

/-- A case as it is written down. -/
structure Draft where
  /-- The name, which is empty where none is given. -/
  name : String := ""
  pattern : List UInt8
  input : List UInt8 := []
  expected? : Option Bool := none
  compiles : Bool := true
  unescape : Bool := false
  deriving DecidableEq, Repr

/-- A case with its name and group, and with escapes resolved. -/
structure Case where
  group : String
  name : String
  /-- The name by which the case is known in the whole collection. -/
  fullName : String
  pattern : List UInt8
  input : List UInt8
  expected? : Option Bool
  compiles : Bool
  deriving DecidableEq, Repr

/-- What makes a case contradict itself. -/
inductive CaseFault where
  /-- The pattern is to be accepted, and nothing is said about a match. -/
  | missingMatch
  /-- The pattern is to be rejected, and a match is spoken of. -/
  | needlessMatch
  deriving DecidableEq, Repr

/-- The message shown to a user. -/
def CaseFault.message : CaseFault → String
  | missingMatch => "'match' must be present when the pattern compiles"
  | needlessMatch => "'match' cannot be present when 'compiles = false'"

namespace Case

/-- Whether a match is expected. -/
def expectsMatch (c : Case) : Bool :=
  c.expected?.getD false

/-- The fault of a case, if it has one: a match is spoken of exactly where the pattern is to be
accepted. -/
def fault? (c : Case) : Option CaseFault :=
  match c.compiles, c.expected? with
  | true, none => some .missingMatch
  | false, some _ => some .needlessMatch
  | _, _ => none

end Case

/-- The bytes of a draft, with escapes resolved where it asks for that. -/
def Draft.resolve (d : Draft) (bytes : List UInt8) : List UInt8 :=
  if d.unescape then Text.unescape bytes else bytes

/-- The case that a draft becomes in a group under a name. -/
def Draft.toCase (d : Draft) (group name : String) : Case where
  group := group
  name := name
  fullName := group ++ "/" ++ name
  pattern := d.resolve d.pattern
  input := d.resolve d.input
  expected? := d.expected?
  compiles := d.compiles

end StarMatch.Suite
