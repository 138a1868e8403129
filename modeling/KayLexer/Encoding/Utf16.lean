import KayLexer.Encoding.Utf8

/-!
UTF-16 in either byte order, one byte at a time.
-/

namespace KayLexer.Encoding

/-- Which byte of a unit comes first. -/
inductive ByteOrder where
  | littleEndian
  | bigEndian
  deriving DecidableEq

namespace ByteOrder

def format : ByteOrder → Format
  | littleEndian => .utf16LittleEndian
  | bigEndian => .utf16BigEndian

/-- The unit of two bytes. -/
def unit : ByteOrder → UInt8 → UInt8 → Nat
  | littleEndian, a, b => a.toNat + 0x100 * b.toNat
  | bigEndian, a, b => 0x100 * a.toNat + b.toNat

end ByteOrder

namespace Utf16

def isLead (u : Nat) : Bool := 0xd800 ≤ u && u < 0xdc00

def isTrail (u : Nat) : Bool := 0xdc00 ≤ u && u < 0xe000

/-- The character of a lead and a trail surrogate. -/
def pair (lead trail : Nat) : Char :=
  Char.ofNat (0x10000 + (lead - 0xd800) * 0x400 + (trail - 0xdc00))

/-- The byte `b` behind the kept ones. -/
def read (order : ByteOrder) (kept : List UInt8) (b : UInt8) : Reading :=
  match kept with
  | [] => .incomplete
  | [a] =>
    let u := order.unit a b
    if isLead u then .incomplete
    else if isTrail u then .malformed ⟨order.format, a, [b], .strayTrail⟩
    else .chars [Char.ofNat u]
  | [_, _] => .incomplete
  | a₁ :: a₂ :: a₃ :: _ =>
    let u := order.unit a₃ b
    if isTrail u then .chars [pair (order.unit a₁ a₂) u]
    else .malformed ⟨order.format, a₁, [a₂], .strayLead⟩

/-- The end of the input behind the kept bytes. -/
def finish (order : ByteOrder) : List UInt8 → Option Malformed
  | [] => none
  | [a] => some ⟨order.format, a, [], .truncated⟩
  | a :: rest => some ⟨order.format, a, rest, .unexpectedEnd⟩

end Utf16

end KayLexer.Encoding
