import KayLexer.Encoding.Utf8

/-!
The encodings with one byte for each character.
-/

namespace KayLexer.Encoding

def Ascii.read (b : UInt8) : Reading :=
  if b < 0x80 then .chars [Char.ofNat b.toNat] else .malformed ⟨.ascii, b, [], .beyondAscii⟩

def Latin1.read (b : UInt8) : Reading := .chars [Char.ofNat b.toNat]

namespace Windows1252

/-- The characters of the bytes from 0x80 to 0x9f; five of the bytes have none. -/
def upperControls : List (Option Char) :=
  [some '\u20ac', none, some '\u201a', some '\u0192', some '\u201e', some '\u2026', some '\u2020',
   some '\u2021', some '\u02c6', some '\u2030', some '\u0160', some '\u2039', some '\u0152', none,
   some '\u017d', none, none, some '\u2018', some '\u2019', some '\u201c', some '\u201d',
   some '\u2022', some '\u2013', some '\u2014', some '\u02dc', some '\u2122', some '\u0161',
   some '\u203a', some '\u0153', none, some '\u017e', some '\u0178']

/-- The character of a byte. -/
def char? (b : UInt8) : Option Char :=
  if 0x80 ≤ b ∧ b < 0xa0 then upperControls[b.toNat - 0x80]?.join else some (Char.ofNat b.toNat)

def read (b : UInt8) : Reading :=
  match char? b with
  | some c => .chars [c]
  | none => .malformed ⟨.charmap, b, [], .unassignedByte⟩

end Windows1252

end KayLexer.Encoding
