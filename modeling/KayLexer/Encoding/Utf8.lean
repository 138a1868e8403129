import KayLexer.Encoding.Malformed

/-!
UTF-8, one byte at a time. The bytes of a character that is not yet complete are kept and read
together with the next one.
-/

namespace KayLexer.Encoding

/-- What a byte amounts to when it is read behind the bytes kept so far. -/
inductive Reading where
  /-- Whole characters, which may be none. -/
  | chars (cs : List Char)
  /-- The beginning of a character. -/
  | incomplete
  /-- Bytes without a meaning. -/
  | malformed (m : Malformed)

namespace Utf8

/-- The number of bytes of a character that begins with the byte `b`. Bytes that could only begin
an overlong form or a character beyond the last one begin none. -/
def length? (b : UInt8) : Option Nat :=
  if b < 0x80 then some 1
  else if 0xc2 ≤ b ∧ b < 0xe0 then some 2
  else if 0xe0 ≤ b ∧ b < 0xf0 then some 3
  else if 0xf0 ≤ b ∧ b < 0xf5 then some 4
  else none

/-- Whether the byte `b` may stand second behind `first`: no overlong form, no surrogate, nothing
beyond the last character. -/
def isSecond (first b : UInt8) : Bool :=
  if first = 0xe0 then 0xa0 ≤ b && b < 0xc0
  else if first = 0xed then 0x80 ≤ b && b < 0xa0
  else if first = 0xf0 then 0x90 ≤ b && b < 0xc0
  else if first = 0xf4 then 0x80 ≤ b && b < 0x90
  else 0x80 ≤ b && b < 0xc0

def isContinuation (b : UInt8) : Bool := 0x80 ≤ b && b < 0xc0

/-- Whether two bytes begin the three of a surrogate, which stands for no character. -/
def beginsSurrogate (first b : UInt8) : Bool := first = 0xed && 0xa0 ≤ b && b < 0xc0

/-- The six bits that a continuation byte carries. -/
def payload (b : UInt8) : Nat := b.toNat % 0x40

def char2 (a b : UInt8) : Char := Char.ofNat (a.toNat % 0x20 * 0x40 + payload b)

def char3 (a b c : UInt8) : Char :=
  Char.ofNat (a.toNat % 0x10 * 0x1000 + payload b * 0x40 + payload c)

def char4 (a b c d : UInt8) : Char :=
  Char.ofNat (a.toNat % 0x8 * 0x40000 + payload b * 0x1000 + payload c * 0x40 + payload d)

/-- What is said when the byte after the kept ones does not continue them. -/
def broken (first : UInt8) (others : List UInt8) : Reading :=
  .malformed ⟨.utf8, first, others, .continuationByte⟩

/-- The byte `b` behind the kept ones. The beginning of a surrogate is refused at its third byte,
whatever that is; all other bytes are refused at once. -/
def read (kept : List UInt8) (b : UInt8) : Reading :=
  match kept with
  | [] =>
    match length? b with
    | some 1 => .chars [Char.ofNat b.toNat]
    | some _ => .incomplete
    | none => .malformed ⟨.utf8, b, [], .startByte⟩
  | [a₁] =>
    if isSecond a₁ b then
      if a₁ < 0xe0 then .chars [char2 a₁ b] else .incomplete
    else if beginsSurrogate a₁ b then .incomplete
    else broken a₁ []
  | [a₁, a₂] =>
    if beginsSurrogate a₁ a₂ then broken a₁ []
    else if isContinuation b then
      if a₁ < 0xf0 then .chars [char3 a₁ a₂ b] else .incomplete
    else broken a₁ [a₂]
  | a₁ :: a₂ :: a₃ :: rest =>
    if isContinuation b then .chars [char4 a₁ a₂ a₃ b] else broken a₁ (a₂ :: a₃ :: rest)

/-- The end of the input behind the kept bytes. -/
def finish : List UInt8 → Option Malformed
  | [] => none
  | [a₁, a₂] =>
    if beginsSurrogate a₁ a₂ then some ⟨.utf8, a₁, [], .continuationByte⟩
    else some ⟨.utf8, a₁, [a₂], .unexpectedEnd⟩
  | a :: rest => some ⟨.utf8, a, rest, .unexpectedEnd⟩

end Utf8

end KayLexer.Encoding
