import KayLexer.Proofs.Encoding.Spelling
import KayLexer.Proofs.Source.Interruptions

/-!
How often a source reads its stream. Each read takes one of the events of the stream, as long as
there are any, so that the reads so far and the events still to come make one number. Main
statements: that number is the same behind the characters that a source delivers; and a source of a
text in UTF-8 has read the bytes of the characters that it has given, and none beyond.
-/

namespace KayLexer

namespace Encoding

/-- The bytes of a text in UTF-8. -/
def utf8Bytes (cs : List Char) : List UInt8 := cs.flatMap String.utf8EncodeChar

theorem utf8Bytes_append (cs ds : List Char) :
    utf8Bytes (cs ++ ds) = utf8Bytes cs ++ utf8Bytes ds :=
  List.flatMap_append

end Encoding

open Encoding (Decoder DecodeError utf8Bytes)

/-! ### Reads and events -/

namespace ByteStream

variable {s s' : ByteStream}

/-- The reads so far, and the events still to come. -/
def budget (s : ByteStream) : Nat := s.reads + s.events.length

theorem budget_of_read {o : Option StreamEvent} (h : s.read = (o, s')) :
    s'.budget ≤ s.budget + 1 := by
  unfold read at h
  split at h
  · cases h
    exact Nat.le_succ _
  · split at h
    · next he =>
      cases h
      simp [budget, he]
    · next e es he =>
      cases h
      simp only [budget, he, List.length_cons]
      omega

theorem budget_of_read_byte {b : UInt8} (h : s.read = (some (.byte b), s')) :
    s'.budget = s.budget := by
  have he := events_of_read_byte h
  unfold read at h
  split at h
  · cases h
  · split at h
    · cases h
    · cases h
      simp only [budget, he, List.length_cons]
      omega

end ByteStream

namespace ByteSource

variable {s : ByteSource}

/-- A source reads its stream up to a byte that completes a character, or once more. -/
theorem budget_refill (s : ByteSource) : s.refill.2.stream.budget ≤ s.stream.budget + 1 ∧
    ∀ c cs, s.refill.1 = .ok (c :: cs) → s.refill.2.stream.budget = s.stream.budget := by
  fun_induction refill s with
  | case1 s stream hread | case2 s e stream hread | case3 s stream hread hf
  | case4 s stream hread x hf | case7 s b stream hread x d hf =>
    exact ⟨ByteStream.budget_of_read hread, by simp⟩
  | case5 s b stream hread d hf ih =>
    rw [← ByteStream.budget_of_read_byte hread]
    exact ih
  | case6 s b stream hread c cs d hf =>
    exact ⟨ByteStream.budget_of_read hread, fun _ _ _ => ByteStream.budget_of_read_byte hread⟩

theorem budget_read (s : ByteSource) : s.read.2.stream.budget ≤ s.stream.budget + 1 ∧
    ∀ c, s.read.1 = .ok (some c) → s.read.2.stream.budget = s.stream.budget := by
  obtain ⟨hle, heq⟩ := s.budget_refill
  unfold read
  split
  · exact ⟨Nat.le_succ _, fun _ _ => rfl⟩
  · split
    · next c cs s' hr =>
      rw [hr] at hle heq
      exact ⟨hle, fun _ _ => heq c cs rfl⟩
    all_goals
      next hr =>
        rw [hr] at hle
        exact ⟨hle, by simp⟩

end ByteSource

/-- **Characters that are delivered cost no more than the events that they are made of.** -/
theorem Source.Delivers.budget {s : ByteSource} {last : Source} {cs : List Char}
    (h : (Source.bytes s).Delivers last cs) :
    ∃ b : ByteSource, last = .bytes b ∧ b.stream.budget = s.stream.budget := by
  induction cs generalizing s with
  | nil =>
    cases h
    exact ⟨s, rfl, rfl⟩
  | cons c cs ih =>
    obtain ⟨b, hlast, hb⟩ := ih h.2
    exact ⟨b, hlast, hb.trans (s.budget_read.2 c h.1)⟩

/-! ### Texts in UTF-8 -/

namespace Encoding.Decoder

variable {d d' : Decoder} {b : UInt8} {c : Char} {cs : List Char}

/-- No bytes are kept behind a character. -/
theorem kept_of_feed (h : d.feed b = (.ok (c :: cs), d')) : d'.kept = [] := by
  unfold feed at h
  split at h
  all_goals
    cases h
    try rfl

theorem mode_of_feed {r : Except DecodeError (List Char)} (hm : d.mode = .utf8)
    (h : d.feed b = (r, d')) : d'.mode = .utf8 := by
  have hmode := d.mode_feed b
  rw [h, hm] at hmode
  exact hmode

end Encoding.Decoder

namespace ByteSource

variable {s : ByteSource} {total : Nat} {c : Char} {cs : List Char}

/-- A source of UTF-8 that gives a character has taken the bytes up to the end of it. -/
theorem decoder_refill (hm : s.decoder.mode = .utf8) {c : Char} {cs : List Char}
    (h : s.refill.1 = .ok (c :: cs)) : s.refill.2.decoder = ⟨.utf8, []⟩ := by
  fun_induction refill s with
  | case1 | case2 | case3 | case4 | case7 => cases h
  | case5 s b stream hread d hf ih => exact ih (Decoder.mode_of_feed hm hf) h
  | case6 s b stream hread a as d hf =>
    have hmode := Decoder.mode_of_feed hm hf
    have hkept := Decoder.kept_of_feed hf
    obtain ⟨mode, kept⟩ := d
    cases hmode
    cases hkept
    rfl

theorem decoder_read (hp : s.pending = []) (hm : s.decoder.mode = .utf8)
    (h : s.read.1 = .ok (some c)) : s.read.2.decoder = ⟨.utf8, []⟩ := by
  obtain ⟨cs, s', hr, hs⟩ := exists_refill_of_read hp h
  have hd := s.decoder_refill hm (congrArg Prod.fst hr)
  rw [hr] at hd
  rw [hs]
  exact hd

/-- The source stands in a text in UTF-8 of `total` bytes. It has given all that it has taken of its
stream, and the stream has the bytes of the characters `cs` that are still to come. -/
structure Ahead (total : Nat) (cs : List Char) (s : ByteSource) : Prop where
  isOpen : s.stream.isClosed = false
  pending : s.pending = []
  decoder : s.decoder = ⟨.utf8, []⟩
  events : s.stream.events = (utf8Bytes cs).map .byte
  spent : s.stream.reads + (utf8Bytes cs).length = total

theorem ahead_ofStream (medium : Medium) (cs : List Char) (path : Option SourcePath) :
    (ofStream (.ofEvents medium ((utf8Bytes cs).map .byte)) path .utf8).Ahead
      (utf8Bytes cs).length cs :=
  ⟨rfl, rfl, rfl, rfl, Nat.zero_add _⟩

theorem Ahead.holds (h : s.Ahead total cs) : s.Holds ⟨.utf8, []⟩ [] cs := by
  refine ⟨h.isOpen, utf8Bytes cs, cs, ?_, ?_, ?_⟩
  · rw [h.events, List.append_nil]
  · rw [h.decoder]
    exact Encoding.Utf8.reads_text cs
  · rw [h.pending, List.nil_append]

/-- **A character is given as soon as its bytes are read.** -/
theorem Ahead.read_cons (h : s.Ahead total (c :: cs)) :
    s.read.1 = .ok (some c) ∧ s.read.2.Ahead total cs := by
  have hprompt : s.Prompt := ⟨h.isOpen, h.pending, by rw [h.decoder]; rfl⟩
  obtain ⟨hr, hopen, bs, ds, hevents, hreads, hds⟩ := h.holds.read_cons
  have hdecoder := decoder_read h.pending (by rw [h.decoder]) hr
  have hpending := hprompt.read.pending
  rw [hdecoder] at hreads
  rw [hpending, List.nil_append] at hds
  subst hds
  obtain ⟨-, rfl⟩ := Encoding.Utf8.spells.eq_flatMap hreads rfl
  rw [List.append_nil] at hevents
  have hbudget := s.budget_read.2 c hr
  rw [ByteStream.budget, ByteStream.budget, hevents, h.events, List.length_map, List.length_map,
    h.spent] at hbudget
  exact ⟨hr, hopen, hpending, hdecoder, hevents, hbudget⟩

/-- Behind the text the stream is read once more. -/
theorem Ahead.read_nil (h : s.Ahead total []) :
    s.read.1 = .ok none ∧ s.read.2.stream.reads = total + 1 := by
  have hread : s.stream.read =
      (some .nothing, { s.stream with reads := s.stream.reads + 1 }) := by
    simp [ByteStream.read, h.isOpen, h.events, utf8Bytes]
  have hrefill : s.refill =
      (.ok [], { s with stream := { s.stream with reads := s.stream.reads + 1 } }) := by
    rw [refill_eq, hread]
    simp only [h.decoder]
    rfl
  rw [ByteSource.read_nil h.pending, hrefill]
  refine ⟨rfl, ?_⟩
  show s.stream.reads + 1 = total + 1
  rw [← h.spent]
  rfl

end ByteSource

end KayLexer
