import KayLexer.Proofs.Encoding.Encoder

/-!
Reading back what was encoded, format by format: each character of a text is read from its bytes
and leaves the decoder as it was. Main statement: a decoder that takes the bytes of a text one by
one gives the text, each character with its last byte, and misses nothing at the end.
-/

namespace KayLexer.Encoding

/-! ### UTF-8 -/

namespace Utf8

theorem isSecond_iff (a b : UInt8) : isSecond a b = true ↔
    0x80 ≤ b.toNat ∧ b.toNat < 0xc0 ∧ (a.toNat = 0xe0 → 0xa0 ≤ b.toNat) ∧
      (a.toNat = 0xed → b.toNat < 0xa0) ∧ (a.toNat = 0xf0 → 0x90 ≤ b.toNat) ∧
      (a.toNat = 0xf4 → b.toNat < 0x90) := by
  unfold isSecond
  simp only [← UInt8.toNat_inj, UInt8.lt_iff_toNat_lt, UInt8.le_iff_toNat_le]
  repeat' split
  all_goals simp_all
  all_goals omega

theorem isContinuation_iff (b : UInt8) :
    isContinuation b = true ↔ 0x80 ≤ b.toNat ∧ b.toNat < 0xc0 := by
  simp [isContinuation, UInt8.lt_iff_toNat_lt, UInt8.le_iff_toNat_le]

/-- What may stand second does not begin a surrogate. -/
theorem beginsSurrogate_of_isSecond {a b : UInt8} (h : isSecond a b) :
    beginsSurrogate a b = false := by
  rw [isSecond_iff] at h
  simp only [beginsSurrogate, ← UInt8.toNat_inj, UInt8.lt_iff_toNat_lt, UInt8.le_iff_toNat_le]
  by_cases ha : a.toNat = 0xed
  · have := h.2.2.2.1 ha
    simp [ha]
    omega
  · simp [ha]

theorem length?_eq (b : UInt8) : length? b =
    if b.toNat < 0x80 then some 1
    else if 0xc2 ≤ b.toNat ∧ b.toNat < 0xe0 then some 2
    else if 0xe0 ≤ b.toNat ∧ b.toNat < 0xf0 then some 3
    else if 0xf0 ≤ b.toNat ∧ b.toNat < 0xf5 then some 4
    else none := by
  simp only [length?, UInt8.lt_iff_toNat_lt, UInt8.le_iff_toNat_le]
  rfl

variable {a b c d : UInt8}

theorem read_single (h : a.toNat < 0x80) : read [] a = .chars [Char.ofNat a.toNat] := by
  simp [read, length?_eq, h]

theorem read_first (h₁ : 0xc2 ≤ a.toNat) (h₂ : a.toNat < 0xf5) : read [] a = .incomplete := by
  have hl : ∃ n, n ≠ 1 ∧ length? a = some n := by
    rw [length?_eq, if_neg (by omega)]
    by_cases h₃ : a.toNat < 0xe0
    · exact ⟨2, by decide, if_pos ⟨h₁, h₃⟩⟩
    by_cases h₄ : a.toNat < 0xf0
    · exact ⟨3, by decide, by rw [if_neg (by omega), if_pos (by omega)]⟩
    · exact ⟨4, by decide, by rw [if_neg (by omega), if_neg (by omega), if_pos (by omega)]⟩
  obtain ⟨n, hn, hl⟩ := hl
  simp [read, hl]

theorem read_second (hb : isSecond a b) :
    read [a] b = if a.toNat < 0xe0 then .chars [char2 a b] else .incomplete := by
  simp [read, hb, UInt8.lt_iff_toNat_lt]

theorem read_third (hb : isSecond a b) (hc : isContinuation c) :
    read [a, b] c = if a.toNat < 0xf0 then .chars [char3 a b c] else .incomplete := by
  simp [read, beginsSurrogate_of_isSecond hb, hc, UInt8.lt_iff_toNat_lt]

theorem read_fourth (hd : isContinuation d) : read [a, b, c] d = .chars [char4 a b c d] := by
  simp [read, hd]

/-- The byte that carries the last six bits of a number. -/
def continuation (n : Nat) : UInt8 := UInt8.ofNat (n % 0x40 + 0x80)

theorem toNat_continuation (n : Nat) : (continuation n).toNat = n % 0x40 + 0x80 := by
  simp [continuation]
  omega

theorem payload_continuation (n : Nat) : payload (continuation n) = n % 0x40 := by
  rw [payload, toNat_continuation]
  omega

theorem isContinuation_continuation (n : Nat) : isContinuation (continuation n) := by
  rw [isContinuation_iff, toNat_continuation]
  omega

variable {n : Nat}

theorem reads_one (h : n < 0x80) :
    Decoder.Reads ⟨.utf8, []⟩ [UInt8.ofNat n] [Char.ofNat n] ⟨.utf8, []⟩ := by
  have ha : (UInt8.ofNat n).toNat = n := by simp; omega
  have hr := read_single (a := UInt8.ofNat n) (by omega)
  rw [ha] at hr
  exact .last (Mode.settled_utf8.feed_chars hr)

theorem reads_two (h₁ : 0x80 ≤ n) (h₂ : n < 0x800) :
    Decoder.Reads ⟨.utf8, []⟩ [UInt8.ofNat (n / 64 % 0x20 + 0xc0), continuation n] [Char.ofNat n]
      ⟨.utf8, []⟩ := by
  generalize h : UInt8.ofNat (n / 64 % 0x20 + 0xc0) = a
  have ha : a.toNat = n / 64 + 0xc0 := by rw [← h]; simp; omega
  have hb : isSecond a (continuation n) := by
    rw [isSecond_iff, toNat_continuation]
    omega
  have hn : char2 a (continuation n) = Char.ofNat n := by
    rw [char2, payload_continuation, ha]
    exact congrArg Char.ofNat (by omega)
  have hr₁ : read [] a = .incomplete := read_first (by omega) (by omega)
  have hr₂ := read_second hb
  rw [if_pos (by omega), hn] at hr₂
  exact .more (Mode.settled_utf8.feed_incomplete hr₁) (.last (Mode.settled_utf8.feed_chars hr₂))

/-- No code point of a surrogate is reached, which the second byte would tell. -/
theorem reads_three (h₁ : 0x800 ≤ n) (h₂ : n < 0x10000) (hs : n < 0xd800 ∨ 0xdfff < n) :
    Decoder.Reads ⟨.utf8, []⟩
      [UInt8.ofNat (n / 4096 % 0x10 + 0xe0), continuation (n / 64), continuation n] [Char.ofNat n]
      ⟨.utf8, []⟩ := by
  generalize h : UInt8.ofNat (n / 4096 % 0x10 + 0xe0) = a
  have ha : a.toNat = n / 4096 + 0xe0 := by rw [← h]; simp; omega
  have hb : isSecond a (continuation (n / 64)) := by
    rw [isSecond_iff, toNat_continuation]
    omega
  have hn : char3 a (continuation (n / 64)) (continuation n) = Char.ofNat n := by
    rw [char3, payload_continuation, payload_continuation, ha]
    exact congrArg Char.ofNat (by omega)
  have hr₁ : read [] a = .incomplete := read_first (by omega) (by omega)
  have hr₂ := read_second hb
  have hr₃ := read_third hb (isContinuation_continuation n)
  rw [if_neg (by omega)] at hr₂
  rw [if_pos (by omega), hn] at hr₃
  refine .more (Mode.settled_utf8.feed_incomplete hr₁) ?_
  exact .more (Mode.settled_utf8.feed_incomplete hr₂) (.last (Mode.settled_utf8.feed_chars hr₃))

theorem reads_four (h₁ : 0x10000 ≤ n) (h₂ : n < 0x110000) :
    Decoder.Reads ⟨.utf8, []⟩
      [UInt8.ofNat (n / 262144 % 0x08 + 0xf0), continuation (n / 4096), continuation (n / 64),
        continuation n] [Char.ofNat n] ⟨.utf8, []⟩ := by
  generalize h : UInt8.ofNat (n / 262144 % 0x08 + 0xf0) = a
  have ha : a.toNat = n / 262144 + 0xf0 := by rw [← h]; simp; omega
  have hb : isSecond a (continuation (n / 4096)) := by
    rw [isSecond_iff, toNat_continuation]
    omega
  have hn : char4 a (continuation (n / 4096)) (continuation (n / 64)) (continuation n) =
      Char.ofNat n := by
    rw [char4, payload_continuation, payload_continuation, payload_continuation, ha]
    exact congrArg Char.ofNat (by omega)
  have hr₁ : read [] a = .incomplete := read_first (by omega) (by omega)
  have hr₂ := read_second hb
  have hr₃ := read_third hb (isContinuation_continuation (n / 64))
  have hr₄ := read_fourth (a := a) (b := continuation (n / 4096)) (c := continuation (n / 64))
    (isContinuation_continuation n)
  rw [if_neg (by omega)] at hr₂ hr₃
  rw [hn] at hr₄
  refine .more (Mode.settled_utf8.feed_incomplete hr₁) ?_
  refine .more (Mode.settled_utf8.feed_incomplete hr₂) ?_
  exact .more (Mode.settled_utf8.feed_incomplete hr₃) (.last (Mode.settled_utf8.feed_chars hr₄))

/-- **The bytes of a character in UTF-8 are read as that character.** -/
theorem reads_encodeChar (c : Char) :
    Decoder.Reads ⟨.utf8, []⟩ (String.utf8EncodeChar c) [c] ⟨.utf8, []⟩ := by
  have hv : c.toNat < 0xd800 ∨ 0xdfff < c.toNat ∧ c.toNat < 0x110000 := c.valid
  have hc : Char.ofNat c.toNat = c := c.ofNat_toNat
  rw [String.utf8EncodeChar]
  generalize hn : c.val.toNat = n
  replace hn : c.toNat = n := hn
  rw [hn] at hv hc
  rw [← hc]
  by_cases h₁ : n ≤ 0x7f
  · rw [if_pos h₁]
    exact reads_one (by omega)
  by_cases h₂ : n ≤ 0x7ff
  · rw [if_neg h₁, if_pos h₂]
    exact reads_two (by omega) (by omega)
  by_cases h₃ : n ≤ 0xffff
  · rw [if_neg h₁, if_neg h₂, if_pos h₃]
    exact reads_three (by omega) (by omega) (by omega)
  · rw [if_neg h₁, if_neg h₂, if_neg h₃]
    exact reads_four (by omega) (by omega)

end Utf8

/-! ### UTF-16 -/

/-- A unit is made of its two bytes. -/
theorem ByteOrder.exists_bytes (order : ByteOrder) {u : Nat} (h : u < 0x10000) :
    ∃ a b, order.bytes u = [a, b] ∧ order.unit a b = u := by
  cases order with
  | littleEndian =>
    refine ⟨_, _, rfl, ?_⟩
    simp [unit]
    omega
  | bigEndian =>
    refine ⟨_, _, rfl, ?_⟩
    simp [unit]
    omega

namespace Utf16

theorem isLead_iff (u : Nat) : isLead u = true ↔ 0xd800 ≤ u ∧ u < 0xdc00 := by
  simp [isLead]

theorem isTrail_iff (u : Nat) : isTrail u = true ↔ 0xdc00 ≤ u ∧ u < 0xe000 := by
  simp [isTrail]

theorem read_unit {order : ByteOrder} {a b : UInt8} {u : Nat} (hu : order.unit a b = u)
    (h : u < 0xd800 ∨ 0xdfff < u) : read order [a] b = .chars [Char.ofNat u] := by
  have hl : ¬ isLead u := by rw [isLead_iff]; omega
  have ht : ¬ isTrail u := by rw [isTrail_iff]; omega
  rw [read, hu, if_neg hl, if_neg ht]

theorem read_lead {order : ByteOrder} {a b : UInt8} {u : Nat} (hu : order.unit a b = u)
    (h : 0xd800 ≤ u ∧ u < 0xdc00) : read order [a] b = .incomplete := by
  rw [read, hu, if_pos ((isLead_iff u).2 h)]

theorem read_trail {order : ByteOrder} {a₁ a₂ b₁ b₂ : UInt8} {u v : Nat}
    (hu : order.unit a₁ a₂ = u) (hv : order.unit b₁ b₂ = v) (h : 0xdc00 ≤ v ∧ v < 0xe000) :
    read order [a₁, a₂, b₁] b₂ = .chars [pair u v] := by
  rw [read, hu, hv, if_pos ((isTrail_iff v).2 h)]

/-- **The bytes of a character in UTF-16 are read as that character.** -/
theorem reads_encodeChar (order : ByteOrder) (c : Char) :
    Decoder.Reads ⟨.utf16 order, []⟩ (encodeChar order c) [c] ⟨.utf16 order, []⟩ := by
  have hv : c.toNat < 0xd800 ∨ 0xdfff < c.toNat ∧ c.toNat < 0x110000 := c.valid
  have hc : Char.ofNat c.toNat = c := c.ofNat_toNat
  have hm := Mode.settled_utf16 order
  rw [encodeChar]
  generalize c.toNat = n at hv hc
  rw [← hc]
  by_cases h : n < 0x10000
  · obtain ⟨a, b, hb, hu⟩ := order.exists_bytes h
    rw [if_pos h, hb]
    have hr : read order [a] b = .chars [Char.ofNat n] := read_unit hu (by omega)
    exact .more (hm.feed_incomplete rfl) (.last (hm.feed_chars hr))
  · obtain ⟨a₁, a₂, ha, hlead⟩ := order.exists_bytes
      (show 0xd800 + (n - 0x10000) / 0x400 < 0x10000 by omega)
    obtain ⟨b₁, b₂, hb, htrail⟩ := order.exists_bytes
      (show 0xdc00 + (n - 0x10000) % 0x400 < 0x10000 by omega)
    have hpair : pair (0xd800 + (n - 0x10000) / 0x400) (0xdc00 + (n - 0x10000) % 0x400) =
        Char.ofNat n := congrArg Char.ofNat (by omega)
    have hr₂ : read order [a₁] a₂ = .incomplete := read_lead hlead (by omega)
    have hr₄ := read_trail hlead htrail (by omega)
    rw [hpair] at hr₄
    rw [if_neg h, ha, hb]
    refine .more (hm.feed_incomplete rfl) ?_
    refine .more (hm.feed_incomplete hr₂) ?_
    exact .more (hm.feed_incomplete rfl) (.last (hm.feed_chars hr₄))

end Utf16

/-! ### One byte for each character -/

theorem toNat_byteOf {c : Char} (h : c.toNat < 0x100) : (byteOf c).toNat = c.toNat := by
  simp [byteOf]
  omega

theorem Latin1.read_byteOf {c : Char} (h : c.toNat < 0x100) : read (byteOf c) = .chars [c] := by
  rw [read, toNat_byteOf h, c.ofNat_toNat]

theorem Ascii.read_byteOf {c : Char} (h : c.toNat < 0x80) : read (byteOf c) = .chars [c] := by
  have hb := toNat_byteOf (c := c) (by omega)
  rw [read, if_pos (by rw [UInt8.lt_iff_toNat_lt, hb]; exact h), hb, c.ofNat_toNat]

/-! ### Whole texts -/

theorem Utf8.reads_text (cs : List Char) :
    Decoder.Reads ⟨.utf8, []⟩ (cs.flatMap String.utf8EncodeChar) cs ⟨.utf8, []⟩ := by
  apply Decoder.reads_flatMap
  intro c _
  exact reads_encodeChar c

theorem Utf16.reads_text (order : ByteOrder) (cs : List Char) :
    Decoder.Reads ⟨.utf16 order, []⟩ (cs.flatMap (encodeChar order)) cs ⟨.utf16 order, []⟩ := by
  apply Decoder.reads_flatMap
  intro c _
  exact reads_encodeChar order c

theorem Latin1.reads_text {cs : List Char} (h : ∀ c ∈ cs, c.toNat < 0x100) :
    Decoder.Reads ⟨.latin1, []⟩ (cs.map byteOf) cs ⟨.latin1, []⟩ := by
  rw [List.map_eq_flatMap]
  apply Decoder.reads_flatMap
  intro c hc
  exact .last (Mode.settled_latin1.feed_chars (read_byteOf (h c hc)))

theorem Ascii.reads_text {cs : List Char} (h : ∀ c ∈ cs, c.toNat < 0x80) :
    Decoder.Reads ⟨.ascii, []⟩ (cs.map byteOf) cs ⟨.ascii, []⟩ := by
  rw [List.map_eq_flatMap]
  apply Decoder.reads_flatMap
  intro c hc
  exact .last (Mode.settled_ascii.feed_chars (read_byteOf (h c hc)))

theorem Decoder.reads_mark (order : ByteOrder) :
    (start utf16).Reads order.mark [] ⟨.utf16 order, []⟩ := by
  cases order <;> exact .more rfl (.more rfl (.nil _))

theorem Decoder.reads_utf8Mark : (start utf8Signed).Reads utf8Mark [] ⟨.utf8, []⟩ :=
  .more rfl (.more rfl (.more rfl (.nil _)))

/-- **A decoder gives the text that the bytes encode, and misses nothing at the end.** -/
theorem Encodes.reads {e : Encoding} {cs : List Char} {bytes : List UInt8}
    (h : Encodes e cs bytes) : ∃ d, (Decoder.start e).Reads bytes cs d ∧ d.finish = none := by
  cases h with
  | utf8 => exact ⟨⟨.utf8, []⟩, Utf8.reads_text cs, rfl⟩
  | utf8Signed =>
    exact ⟨⟨.utf8, []⟩, Decoder.reads_utf8Mark.append (Utf8.reads_text cs), rfl⟩
  | utf16LittleEndian =>
    exact ⟨⟨.utf16 .littleEndian, []⟩, Utf16.reads_text .littleEndian cs, rfl⟩
  | utf16BigEndian => exact ⟨⟨.utf16 .bigEndian, []⟩, Utf16.reads_text .bigEndian cs, rfl⟩
  | utf16 order =>
    exact ⟨⟨.utf16 order, []⟩, (Decoder.reads_mark order).append (Utf16.reads_text order cs), rfl⟩
  | latin1 h => exact ⟨⟨.latin1, []⟩, Latin1.reads_text h, rfl⟩
  | ascii h => exact ⟨⟨.ascii, []⟩, Ascii.reads_text h, rfl⟩

end KayLexer.Encoding
