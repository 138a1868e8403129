import KayLexer.Encoding.Decoder

/-!
Encoded texts, and decoders that read them. The bytes of a text are given for the Unicode encodings
and for the two encodings that have some of the characters only. A decoder reads bytes one by one;
what it makes of them is composed of what it makes of their pieces.
-/

namespace KayLexer.Encoding

/-! ### The bytes of a text -/

/-- The two bytes of a unit. -/
def ByteOrder.bytes : ByteOrder → Nat → List UInt8
  | littleEndian, u => [UInt8.ofNat u, UInt8.ofNat (u / 0x100)]
  | bigEndian, u => [UInt8.ofNat (u / 0x100), UInt8.ofNat u]

/-- The byte order mark of UTF-16. -/
def ByteOrder.mark : ByteOrder → List UInt8
  | littleEndian => [0xff, 0xfe]
  | bigEndian => [0xfe, 0xff]

/-- The bytes of a character in UTF-16: those of its code point, or of the lead and the trail
surrogate of a code point that is too large for one unit. -/
def Utf16.encodeChar (order : ByteOrder) (c : Char) : List UInt8 :=
  if c.toNat < 0x10000 then order.bytes c.toNat
  else order.bytes (0xd800 + (c.toNat - 0x10000) / 0x400) ++
    order.bytes (0xdc00 + (c.toNat - 0x10000) % 0x400)

/-- The byte of a character that has the number of a byte. -/
def byteOf (c : Char) : UInt8 := UInt8.ofNat c.toNat

/-- The bytes are those of the text in the encoding. A byte order mark stands in front of them in
`utf8Signed` and, in either order, in `utf16`. -/
inductive Encodes : Encoding → List Char → List UInt8 → Prop where
  | utf8 (cs : List Char) : Encodes .utf8 cs (cs.flatMap String.utf8EncodeChar)
  | utf8Signed (cs : List Char) :
      Encodes .utf8Signed cs (utf8Mark ++ cs.flatMap String.utf8EncodeChar)
  | utf16LittleEndian (cs : List Char) :
      Encodes .utf16LittleEndian cs (cs.flatMap (Utf16.encodeChar .littleEndian))
  | utf16BigEndian (cs : List Char) :
      Encodes .utf16BigEndian cs (cs.flatMap (Utf16.encodeChar .bigEndian))
  | utf16 (order : ByteOrder) (cs : List Char) :
      Encodes .utf16 cs (order.mark ++ cs.flatMap (Utf16.encodeChar order))
  | latin1 {cs : List Char} (h : ∀ c ∈ cs, c.toNat < 0x100) : Encodes .latin1 cs (cs.map byteOf)
  | ascii {cs : List Char} (h : ∀ c ∈ cs, c.toNat < 0x80) : Encodes .ascii cs (cs.map byteOf)

/-! ### Reading bytes one by one -/

/-- The decoder takes the bytes without an error, gives the characters and is then `d'`. -/
inductive Decoder.Reads : Decoder → List UInt8 → List Char → Decoder → Prop where
  | nil (d : Decoder) : Reads d [] [] d
  | cons {d d₁ d' : Decoder} {b : UInt8} {bs : List UInt8} {cs ds : List Char} :
      d.feed b = (.ok cs, d₁) → Reads d₁ bs ds d' → Reads d (b :: bs) (cs ++ ds) d'

namespace Decoder

theorem Reads.more {d d₁ d' : Decoder} {b : UInt8} {bs : List UInt8} {cs : List Char}
    (h : d.feed b = (.ok [], d₁)) (hr : d₁.Reads bs cs d') : d.Reads (b :: bs) cs d' :=
  .cons h hr

theorem Reads.last {d d' : Decoder} {b : UInt8} {c : Char} (h : d.feed b = (.ok [c], d')) :
    d.Reads [b] [c] d' :=
  .cons h (.nil d')

theorem Reads.append {d m d' : Decoder} {as bs : List UInt8} {cs ds : List Char}
    (h₁ : d.Reads as cs m) (h₂ : m.Reads bs ds d') : d.Reads (as ++ bs) (cs ++ ds) d' := by
  induction h₁ with
  | nil => exact h₂
  | cons h _ ih =>
    rw [List.append_assoc]
    exact .cons h (ih h₂)

/-- A text is read if each of its characters is, and leaves the decoder as it was. -/
theorem reads_flatMap {d : Decoder} {f : Char → List UInt8} {cs : List Char}
    (h : ∀ c ∈ cs, d.Reads (f c) [c] d) : d.Reads (cs.flatMap f) cs d := by
  induction cs with
  | nil => exact .nil d
  | cons c cs ih =>
    obtain ⟨hc, hcs⟩ := List.forall_mem_cons.1 h
    exact hc.append (ih hcs)

end Decoder

/-- All bytes are read alike in the mode, as `r` reads them. -/
def Mode.Settled (mode : Mode) (r : List UInt8 → UInt8 → Reading) : Prop :=
  ∀ kept b, mode.read kept b = (mode, outcome (r kept b))

namespace Mode

variable {mode : Mode} {r : List UInt8 → UInt8 → Reading} {kept : List UInt8} {b : UInt8}

theorem settled_utf8 : Settled utf8 Utf8.read := fun _ _ => rfl

theorem settled_utf16 (order : ByteOrder) : Settled (utf16 order) (Utf16.read order) :=
  fun _ _ => rfl

theorem settled_ascii : Settled ascii (fun _ => Ascii.read) := fun _ _ => rfl

theorem settled_latin1 : Settled latin1 (fun _ => Latin1.read) := fun _ _ => rfl

theorem settled_big5hkscs : Settled big5hkscs Big5hkscs.read := fun _ _ => rfl

theorem Settled.feed_chars {cs : List Char} (hm : mode.Settled r) (h : r kept b = .chars cs) :
    Decoder.feed ⟨mode, kept⟩ b = (.ok cs, ⟨mode, []⟩) := by
  simp [Decoder.feed, hm kept b, h, outcome]

theorem Settled.feed_incomplete (hm : mode.Settled r) (h : r kept b = .incomplete) :
    Decoder.feed ⟨mode, kept⟩ b = (.ok [], ⟨mode, kept ++ [b]⟩) := by
  simp [Decoder.feed, hm kept b, h, outcome]

end Mode

end KayLexer.Encoding
