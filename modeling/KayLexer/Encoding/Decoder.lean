import KayLexer.Encoding.Basic
import KayLexer.Encoding.Big5hkscs
import KayLexer.Encoding.SingleByte
import KayLexer.Encoding.Utf16

/-!
Decoders: an encoding in the course of being read. A decoder takes one byte at a time and keeps
the bytes of a character that is not yet complete. A byte that makes no sense is dropped. The kept
bytes stay as they were, but those of Big5-HKSCS are dropped with it.
-/

namespace KayLexer.Encoding

/-- Why bytes cannot be decoded. -/
inductive DecodeError where
  | malformed (m : Malformed)
  /-- UTF-16 without the byte order mark that it has to begin with. -/
  | missingByteOrderMark
  | undefinedEncoding
  deriving DecidableEq

/-- How the next bytes are to be read. -/
inductive Mode where
  | utf8
  /-- UTF-8, where a byte order mark may still come. -/
  | utf8Start
  | ascii
  | latin1
  | windows1252
  | utf16 (order : ByteOrder)
  /-- UTF-16, where the byte order mark has not come yet. -/
  | utf16Start
  | big5hkscs
  | undefined
  deriving DecidableEq

/-- How an encoding begins. -/
def initialMode : Encoding → Mode
  | utf8 => .utf8
  | utf8Signed => .utf8Start
  | ascii => .ascii
  | latin1 => .latin1
  | windows1252 => .windows1252
  | utf16 => .utf16Start
  | utf16LittleEndian => .utf16 .littleEndian
  | utf16BigEndian => .utf16 .bigEndian
  | big5hkscs => .big5hkscs
  | undefined => .undefined

/-- The byte order mark in UTF-8. -/
def utf8Mark : List UInt8 := [0xef, 0xbb, 0xbf]

/-- The byte order that two bytes mark. -/
def ByteOrder.ofMark? (a b : UInt8) : Option ByteOrder :=
  if a = 0xff ∧ b = 0xfe then some .littleEndian
  else if a = 0xfe ∧ b = 0xff then some .bigEndian
  else none

namespace Mode

/-- A reading as the outcome of a step: the characters it gives, `none` for an incomplete one. -/
def outcome : Reading → Except DecodeError (Option (List Char))
  | .chars cs => .ok (some cs)
  | .incomplete => .ok none
  | .malformed m => .error (.malformed m)

/-- The byte `b` behind the kept ones, where the first two bytes have to be a byte order mark.
Without a mark the bytes are read in little-endian order, but no character of them is accepted. -/
def readUtf16Start (kept : List UInt8) (b : UInt8) :
    Mode × Except DecodeError (Option (List Char)) :=
  match kept, kept.head?.bind (ByteOrder.ofMark? · b) with
  | [_], some order => (.utf16 order, .ok (some []))
  | _, _ =>
    match Utf16.read .littleEndian kept b with
    | .chars _ => (.utf16Start, .error .missingByteOrderMark)
    | r => (.utf16Start, outcome r)

/-- The byte `b` behind the kept ones, where a byte order mark may begin the input. Whatever turns
out not to be the mark is UTF-8 like all that follows. -/
def readUtf8Start (kept : List UInt8) (b : UInt8) :
    Mode × Except DecodeError (Option (List Char)) :=
  if kept ++ [b] = utf8Mark then (.utf8, .ok (some []))
  else if (kept ++ [b]).isPrefixOf utf8Mark then (.utf8Start, .ok none)
  else (.utf8, outcome (Utf8.read kept b))

/-- The byte `b` behind the kept ones, with the mode for the bytes to come. -/
def read (mode : Mode) (kept : List UInt8) (b : UInt8) :
    Mode × Except DecodeError (Option (List Char)) :=
  match mode with
  | utf8 => (utf8, outcome (Utf8.read kept b))
  | utf8Start => readUtf8Start kept b
  | ascii => (ascii, outcome (Ascii.read b))
  | latin1 => (latin1, outcome (Latin1.read b))
  | windows1252 => (windows1252, outcome (Windows1252.read b))
  | utf16 order => (utf16 order, outcome (Utf16.read order kept b))
  | utf16Start => readUtf16Start kept b
  | big5hkscs => (big5hkscs, outcome (Big5hkscs.read kept b))
  | undefined => (undefined, .error .undefinedEncoding)

/-- What is wrong with the end of the input behind the kept bytes. Two bytes that might have begun
a UTF-8 byte order mark are not missed. -/
def finish (mode : Mode) (kept : List UInt8) : Option DecodeError :=
  match mode with
  | utf8 => (Utf8.finish kept).map .malformed
  | utf8Start => none
  | ascii => none
  | latin1 => none
  | windows1252 => none
  | utf16 order => (Utf16.finish order kept).map .malformed
  | utf16Start => (Utf16.finish .littleEndian kept).map .malformed
  | big5hkscs => (Big5hkscs.finish kept).map .malformed
  | undefined => some .undefinedEncoding

/-- What is left of the kept bytes where the one behind them makes no sense. -/
def keptOnError : Mode → List UInt8 → List UInt8
  | big5hkscs, _ => []
  | _, kept => kept

/-- The number of characters that a byte completes at most. -/
def most : Mode → Nat
  | big5hkscs => 2
  | _ => 1

theorem most_le (mode : Mode) : mode.most ≤ 2 := by
  cases mode <;> simp [most]

end Mode

/-- A decoder in the middle of an input. -/
structure Decoder where
  mode : Mode
  kept : List UInt8

namespace Decoder

/-- The decoder at the beginning of an input. -/
def start (e : Encoding) : Decoder := ⟨e.initialMode, []⟩

/-- The decoder takes a byte and gives the characters that it completes. -/
def feed (d : Decoder) (b : UInt8) : Except DecodeError (List Char) × Decoder :=
  match d.mode.read d.kept b with
  | (mode, .ok (some cs)) => (.ok cs, ⟨mode, []⟩)
  | (mode, .ok none) => (.ok [], ⟨mode, d.kept ++ [b]⟩)
  | (mode, .error e) => (.error e, ⟨mode, mode.keptOnError d.kept⟩)

/-- What is wrong if the input ends here. No character is completed by the end. -/
def finish (d : Decoder) : Option DecodeError := d.mode.finish d.kept

/-! ### How many characters a byte completes -/

theorem length_chars_utf8 {kept : List UInt8} {b : UInt8} {cs : List Char}
    (h : Utf8.read kept b = .chars cs) : cs.length ≤ 1 := by
  unfold Utf8.read Utf8.broken at h
  repeat' split at h
  all_goals cases h <;> simp

theorem length_chars_utf16 {order : ByteOrder} {kept : List UInt8} {b : UInt8} {cs : List Char}
    (h : Utf16.read order kept b = .chars cs) : cs.length ≤ 1 := by
  simp only [Utf16.read] at h
  repeat' split at h
  all_goals cases h <;> simp

theorem length_chars_windows1252 {b : UInt8} {cs : List Char}
    (h : Windows1252.read b = .chars cs) : cs.length ≤ 1 := by
  unfold Windows1252.read at h
  split at h <;> cases h
  simp

theorem length_chars_big5hkscs {kept : List UInt8} {b : UInt8} {cs : List Char}
    (h : Big5hkscs.read kept b = .chars cs) : cs.length ≤ 2 := by
  rcases Big5hkscs.read_cases h with ⟨c, rfl⟩ | ⟨a, hpair⟩
  · exact Nat.le_succ 1
  · exact Nat.le_of_eq (Big5hkscs.length_of_mem_pairs hpair)

theorem length_chars_outcome {r : Reading} {cs : List Char} {n : Nat}
    (hr : ∀ ds, r = .chars ds → ds.length ≤ n) (h : Mode.outcome r = .ok (some cs)) :
    cs.length ≤ n := by
  cases r <;> simp_all [Mode.outcome]

theorem length_chars_mode {mode mode' : Mode} {kept : List UInt8} {b : UInt8} {cs : List Char}
    (h : mode.read kept b = (mode', .ok (some cs))) : cs.length ≤ mode.most := by
  cases mode with
  | utf8 => exact length_chars_outcome (fun _ => length_chars_utf8) (congrArg Prod.snd h)
  | utf8Start =>
    simp only [Mode.read, Mode.readUtf8Start] at h
    split at h
    · cases h
      simp
    · split at h
      · simp at h
      · exact length_chars_outcome (fun _ => length_chars_utf8) (congrArg Prod.snd h)
  | ascii =>
    refine length_chars_outcome (fun ds hd => ?_) (congrArg Prod.snd h)
    unfold Ascii.read at hd
    split at hd <;> cases hd
    exact Nat.le_refl 1
  | latin1 =>
    cases h
    exact Nat.le_refl 1
  | windows1252 =>
    exact length_chars_outcome (fun _ => length_chars_windows1252) (congrArg Prod.snd h)
  | utf16 order => exact length_chars_outcome (fun _ => length_chars_utf16) (congrArg Prod.snd h)
  | utf16Start =>
    simp only [Mode.read, Mode.readUtf16Start] at h
    split at h
    · cases h
      simp
    · split at h
      · simp at h
      · exact length_chars_outcome (fun _ => length_chars_utf16) (congrArg Prod.snd h)
  | big5hkscs =>
    exact length_chars_outcome (fun _ => length_chars_big5hkscs) (congrArg Prod.snd h)
  | undefined => simp [Mode.read] at h

/-- No byte completes more characters than its mode allows for. -/
theorem length_chars_feed {d d' : Decoder} {b : UInt8} {cs : List Char}
    (h : d.feed b = (.ok cs, d')) : cs.length ≤ d.mode.most := by
  unfold feed at h
  split at h <;> cases h
  · rename_i hm
    exact length_chars_mode hm
  · simp

end Decoder

end KayLexer.Encoding
