import KayLexer.Text.Quoted

/-!
Bytes that an encoding gives no meaning to, and what is said of them.
-/

namespace KayLexer.Encoding

/-- The byte formats that can be violated. -/
inductive Format where
  | utf8
  | ascii
  | charmap
  | utf16LittleEndian
  | utf16BigEndian
  | big5hkscs
  deriving DecidableEq

def Format.name : Format → String
  | utf8 => "utf-8"
  | ascii => "ascii"
  | charmap => "charmap"
  | utf16LittleEndian => "utf-16-le"
  | utf16BigEndian => "utf-16-be"
  | big5hkscs => "big5hkscs"

/-- The rule that bytes violate. -/
inductive Violation where
  | startByte
  | continuationByte
  | unexpectedEnd
  | beyondAscii
  | unassignedByte
  /-- A trail surrogate with no lead surrogate before it. -/
  | strayTrail
  /-- A lead surrogate with no trail surrogate behind it. -/
  | strayLead
  | truncated
  | multibyteSequence
  | incompleteSequence
  deriving DecidableEq

def Violation.text : Violation → String
  | startByte => "invalid start byte"
  | continuationByte => "invalid continuation byte"
  | unexpectedEnd => "unexpected end of data"
  | beyondAscii => "ordinal not in range(128)"
  | unassignedByte => "character maps to <undefined>"
  | strayTrail => "illegal encoding"
  | strayLead => "illegal UTF-16 surrogate"
  | truncated => "truncated data"
  | multibyteSequence => "illegal multibyte sequence"
  | incompleteSequence => "incomplete multibyte sequence"

/-- The first byte that violates a format, the bytes that follow it, and the rule violated. -/
structure Malformed where
  format : Format
  first : UInt8
  others : List UInt8
  violation : Violation
  deriving DecidableEq

namespace Malformed

/-- One byte is shown; of several only their number is, as a range counted from zero. -/
def span (m : Malformed) : String :=
  match m.others with
  | [] => "byte 0x" ++ Text.Quoted.hexadecimal 2 m.first.toNat ++ " in position 0"
  | others => s!"bytes in position 0-{others.length}"

/-- The whole text of a violation. -/
def text (m : Malformed) : String :=
  "'" ++ m.format.name ++ "' codec can't decode " ++ m.span ++ ": " ++ m.violation.text

end Malformed

end KayLexer.Encoding
