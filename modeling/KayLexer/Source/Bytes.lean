import KayLexer.Source.Failure

/-!
Sources over a byte stream. The bytes are decoded one at a time, so that a failure is met exactly
where the character stands that it concerns. Main statement: a character that is read is no longer
to come.
-/

namespace KayLexer

open Encoding (Decoder DecodeError)

/-- A byte stream in the course of being decoded. `pending` are the characters that are decoded but
not yet read, `position` is that of the next one. -/
structure ByteSource where
  stream : ByteStream
  path : Option SourcePath
  decoder : Decoder
  pending : List Char
  position : Position

namespace ByteSource

/-- The source at the beginning of a stream. -/
def ofStream (stream : ByteStream) (path : Option SourcePath) (e : Encoding) : ByteSource :=
  ⟨stream, path, .start e, [], .start⟩

def close (s : ByteSource) : ByteSource := { s with stream := s.stream.close }

/-- A failure to read the next character. -/
def unreadable (s : ByteSource) (reason : UnreadableReason) : ReadError :=
  .unreadable ⟨s.path, s.position, reason⟩

/-- What a decoding error means for the source. -/
def decodeError (s : ByteSource) : DecodeError → ReadError
  | .malformed m => s.unreadable (.malformed m)
  | .missingByteOrderMark => .missingByteOrderMark
  | .undefinedEncoding => .undefinedEncoding

/-- Reads the stream until it has given whole characters, or yields nothing. -/
def refill (s : ByteSource) : Except ReadError (List Char) × ByteSource :=
  match _h : s.stream.read with
  | (none, stream) => (.error (.closed s.stream.medium), { s with stream })
  | (some (.failure e), stream) => (.error (s.unreadable (.system e)), { s with stream })
  | (some .nothing, stream) =>
    match s.decoder.finish with
    | none => (.ok [], { s with stream })
    | some e => (.error (s.decodeError e), { s with stream })
  | (some (.byte b), stream) =>
    match s.decoder.feed b with
    | (.ok [], decoder) => refill { s with stream, decoder }
    | (.ok (c :: cs), decoder) => (.ok (c :: cs), { s with stream, decoder })
    | (.error e, decoder) => (.error (s.decodeError e), { s with stream, decoder })
termination_by s.stream.events.length
decreasing_by
  rw [ByteStream.events_of_read_byte _h]
  exact Nat.lt_succ_self _

/-- The source behind the first of the decoded characters `c :: cs`. -/
def deliver (s : ByteSource) (c : Char) (cs : List Char) : ByteSource :=
  { s with pending := cs, position := s.position.after c }

/-- The next character, or `none` where the stream yields nothing. -/
def read (s : ByteSource) : Except ReadError (Option Char) × ByteSource :=
  match s.pending with
  | c :: cs => (.ok (some c), s.deliver c cs)
  | [] =>
    match s.refill with
    | (.ok (c :: cs), s') => (.ok (some c), s'.deliver c cs)
    | (.ok [], s') => (.ok none, s')
    | (.error e, s') => (.error e, s')

/-! ### How much is left to read -/

/-- A bound on the characters still to come. -/
def remaining (s : ByteSource) : Nat := s.pending.length + 2 * s.stream.events.length

theorem pending_refill (s : ByteSource) : s.refill.2.pending = s.pending := by
  fun_induction refill s <;> simp_all

theorem events_length_refill_le (s : ByteSource) :
    s.refill.2.stream.events.length ≤ s.stream.events.length := by
  fun_induction refill s with
  | case1 s stream h | case2 s e stream h | case3 s stream h | case4 s stream h e =>
    simpa [h] using s.stream.events_length_read_le
  | case5 s stream b h decoder hd ih =>
    rw [ByteStream.events_of_read_byte h]
    exact Nat.le_succ_of_le ih
  | case6 s stream b h c cs decoder hd | case7 s stream b h e decoder hd =>
    simpa [h] using s.stream.events_length_read_le

theorem length_refill {s s' : ByteSource} {c : Char} {cs : List Char}
    (h : s.refill = (.ok (c :: cs), s')) :
    (c :: cs).length + 2 * s'.stream.events.length ≤ 2 * s.stream.events.length := by
  fun_induction refill s with
  | case1 | case2 | case3 | case4 | case7 => simp at h
  | case5 s stream b hb decoder hd ih =>
    have := ih h
    rw [ByteStream.events_of_read_byte hb]
    simp only [List.length_cons] at this ⊢
    omega
  | case6 s stream b hb d ds decoder hd =>
    obtain ⟨⟨rfl, rfl⟩, rfl⟩ := by simpa using h
    have := Nat.le_trans (Decoder.length_chars_feed hd) (Encoding.Mode.most_le _)
    rw [ByteStream.events_of_read_byte hb]
    simp only [List.length_cons] at this ⊢
    omega

/-- **A character that is read is no longer to come.** -/
theorem remaining_read_lt {s s' : ByteSource} {c : Char} (h : s.read = (.ok (some c), s')) :
    s'.remaining < s.remaining := by
  unfold read at h
  split at h
  · rename_i d ds hp
    obtain ⟨rfl, rfl⟩ := by simpa using h
    simp [remaining, deliver, hp]
  · rename_i hp
    split at h <;> simp at h
    rename_i d ds s₁ hr
    obtain ⟨rfl, rfl⟩ := h
    have := length_refill hr
    simp only [remaining, deliver, hp, List.length_cons, List.length_nil] at this ⊢
    omega

theorem remaining_read_le (s : ByteSource) : s.read.2.remaining ≤ s.remaining := by
  cases hr : s.read with
  | mk r s' =>
    match r, hr with
    | .ok (some c), hr => exact Nat.le_of_lt (remaining_read_lt hr)
    | .ok none, hr | .error e, hr =>
      have hp := s.pending_refill
      have he := s.events_length_refill_le
      unfold read at hr
      split at hr
      · simp at hr
      · have hs : s' = s.refill.2 := by split at hr <;> simp_all
        simp only [remaining, hs, hp]
        omega

end ByteSource

end KayLexer
