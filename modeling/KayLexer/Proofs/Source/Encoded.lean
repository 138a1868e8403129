import KayLexer.Proofs.Encoding.RoundTrip
import KayLexer.Proofs.Source.Delivery

/-!
Byte sources over the bytes of a text. A source that is read keeps what is still to come of the
text in two places: in the characters that are decoded already, and in the bytes that its decoder
has not taken yet. Main statement: the source gives the text, character by character, and then
whatever the stream yields behind the bytes of the text.
-/

namespace KayLexer

open Encoding (Decoder Encodes)

namespace ByteStream

theorem read_cons {s : ByteStream} {e : StreamEvent} {es : List StreamEvent}
    (ho : s.isClosed = false) (he : s.events = e :: es) :
    ∃ s', s.read = (some e, s') ∧ s'.isClosed = false ∧ s'.events = es :=
  ⟨{ s with events := es, reads := s.reads + 1 }, by simp [read, ho, he], ho, rfl⟩

theorem read_nil {s : ByteStream} (ho : s.isClosed = false) (he : s.events = []) :
    ∃ s', s.read = (some .nothing, s') ∧ s'.isClosed = false ∧ s'.events = [] :=
  ⟨{ s with reads := s.reads + 1 }, by simp [read, ho, he], ho, he⟩

end ByteStream

namespace ByteSource

variable {s : ByteSource} {stream : ByteStream} {b : UInt8} {c : Char} {cs : List Char}
  {d d' : Decoder} {events : List StreamEvent}

/-! ### Refilling -/

theorem refill_eq (s : ByteSource) : s.refill =
    match s.stream.read with
    | (none, stream) => (.error (.closed s.stream.medium), { s with stream })
    | (some (.failure e), stream) => (.error (s.unreadable (.system e)), { s with stream })
    | (some .nothing, stream) =>
      match s.decoder.finish with
      | none => (.ok [], { s with stream })
      | some e => (.error (s.decodeError e), { s with stream })
    | (some (.byte b), stream) =>
      match s.decoder.feed b with
      | (.ok [], decoder) => refill { s with stream, decoder }
      | (.ok (c :: cs), decoder) => (.ok (c :: cs), { s with stream, decoder })
      | (.error e, decoder) => (.error (s.decodeError e), { s with stream, decoder }) := by
  rw [refill]
  split
  all_goals next h => exact h ▸ rfl

/-- A byte that completes nothing is followed by the next one. -/
theorem refill_nil (h : s.stream.read = (some (.byte b), stream))
    (hd : s.decoder.feed b = (.ok [], d)) : s.refill = refill { s with stream, decoder := d } := by
  rw [refill_eq, h]
  simp only [hd]

theorem refill_cons (h : s.stream.read = (some (.byte b), stream))
    (hd : s.decoder.feed b = (.ok (c :: cs), d)) :
    s.refill = (.ok (c :: cs), { s with stream, decoder := d }) := by
  rw [refill_eq, h]
  simp only [hd]

/-- Bytes of which the decoder makes a text end in a first piece of the text, or in what stands
behind them where the text is empty. -/
theorem refill_reads {bs : List UInt8} {ds : List Char} (hr : s.decoder.Reads bs ds d')
    (ho : s.stream.isClosed = false) (he : s.stream.events = bs.map .byte ++ events) :
    (ds = [] ∧ ∃ stream, stream.isClosed = false ∧ stream.events = events ∧
      s.refill = refill { s with stream, decoder := d' }) ∨
    ∃ c cs rest bs' stream decoder, ds = c :: cs ++ rest ∧ decoder.Reads bs' rest d' ∧
      stream.isClosed = false ∧ stream.events = bs'.map .byte ++ events ∧
      s.refill = (.ok (c :: cs), { s with stream, decoder }) := by
  obtain ⟨stream, path, decoder, pending, position⟩ := s
  simp only at hr ho he
  induction hr generalizing stream with
  | nil d => exact .inl ⟨rfl, stream, ho, he, rfl⟩
  | @cons d d₁ d' b bs cs ds hf hr ih =>
    obtain ⟨stream₁, hread, ho₁, he₁⟩ := stream.read_cons ho he
    cases cs with
    | nil =>
      rw [refill_nil hread hf]
      exact ih stream₁ ho₁ he₁
    | cons c cs => exact .inr ⟨c, cs, ds, bs, stream₁, d₁, rfl, hr, ho₁, he₁, refill_cons hread hf⟩

/-! ### Reading a text -/

theorem read_nil (hp : s.pending = []) : s.read =
    match s.refill with
    | (.ok (c :: cs), s') => (.ok (some c), s'.deliver c cs)
    | (.ok [], s') => (.ok none, s')
    | (.error e, s') => (.error e, s') := by
  rw [read]
  split
  · next h => rw [hp] at h; cases h
  · rfl

/-- A character that is not decoded yet is the first of those that the stream gives. -/
theorem exists_refill_of_read (hp : s.pending = []) (h : s.read.1 = .ok (some c)) :
    ∃ cs s', s.refill = (.ok (c :: cs), s') ∧ s.read.2 = s'.deliver c cs := by
  rw [read_nil hp] at h ⊢
  split at h
  · next hr =>
    cases h
    exact ⟨_, _, hr, rfl⟩
  · cases h
  · cases h

/-- A read that gives no character leaves what it leaves of the stream. -/
theorem read_eq_refill (hp : s.pending = []) (h : ∀ c, s.read.1 ≠ .ok (some c)) :
    s.read.2 = s.refill.2 := by
  rw [read_nil hp] at h ⊢
  split at h
  · next c cs s' hr => exact absurd rfl (h c)
  all_goals
    next hr =>
      rw [hr]

/-- The source has a text to give. Behind it, its decoder is `d`, and the stream goes on with
`events`. -/
structure Holds (s : ByteSource) (d : Decoder) (events : List StreamEvent) (cs : List Char) :
    Prop where
  isOpen : s.stream.isClosed = false
  split : ∃ bs ds, s.stream.events = bs.map .byte ++ events ∧ s.decoder.Reads bs ds d ∧
    s.pending ++ ds = cs

/-- A new source has the text to give that its bytes encode. -/
theorem holds_ofStream {e : Encoding} {bytes : List UInt8} (h : (Decoder.start e).Reads bytes cs d)
    (medium : Medium) (path : Option SourcePath) (events : List StreamEvent) :
    (ofStream (.ofEvents medium (bytes.map .byte ++ events)) path e).Holds d events cs :=
  ⟨rfl, bytes, cs, rfl, h, rfl⟩

theorem Holds.read_cons (h : s.Holds d events (c :: cs)) :
    s.read.1 = .ok (some c) ∧ s.read.2.Holds d events cs := by
  obtain ⟨ho, bs, ds, he, hr, hcs⟩ := h
  cases hp : s.pending with
  | cons a as =>
    rw [hp, List.cons_append] at hcs
    obtain ⟨rfl, htail⟩ := List.cons.inj hcs
    have hs : s.read = (.ok (some a), s.deliver a as) := by
      rw [read, hp]
    rw [hs]
    exact ⟨rfl, ho, bs, ds, he, hr, htail⟩
  | nil =>
    rw [hp, List.nil_append] at hcs
    subst hcs
    rcases refill_reads hr ho he with
      ⟨hn, -⟩ | ⟨a, as, rest, bs', stream, decoder, hds, hr', ho', he', hf⟩
    · cases hn
    · obtain ⟨rfl, rfl⟩ := List.cons.inj hds
      rw [read_nil hp, hf]
      exact ⟨rfl, ho', bs', rest, he', hr', rfl⟩

/-- Behind the text there are only the events behind its bytes. -/
theorem Holds.read_nil (h : s.Holds d events []) : s.pending = [] ∧ ∃ stream,
    stream.isClosed = false ∧ stream.events = events ∧
      s.refill = refill { s with stream, decoder := d } := by
  obtain ⟨ho, bs, ds, he, hr, hcs⟩ := h
  obtain ⟨hp, rfl⟩ := List.append_eq_nil_iff.1 hcs
  rcases refill_reads hr ho he with ⟨-, h⟩ | ⟨a, as, rest, -, -, -, hds, -⟩
  · exact ⟨hp, h⟩
  · cases hds

/-- Nothing is behind the text, however often the source is read. -/
theorem Holds.read_end (h : s.Holds d [] []) (hf : d.finish = none) :
    ∃ s', s.read = (.ok none, s') ∧ s'.Holds d [] [] ∧ s'.position = s.position := by
  obtain ⟨hp, stream, ho, he, hr⟩ := h.read_nil
  obtain ⟨stream', hread, ho', he'⟩ := stream.read_nil ho he
  have hrefill : s.refill = (.ok [], { s with stream := stream', decoder := d }) := by
    rw [hr, refill_eq, hread]
    simp only [hf]
  rw [ByteSource.read_nil hp, hrefill]
  exact ⟨_, rfl, ⟨ho', [], [], he', .nil d, by rw [hp]; rfl⟩, rfl⟩

/-- A read of the stream that fails behind the text is met next. -/
theorem Holds.read_failure {x : OsError} (h : s.Holds d (.failure x :: events) []) :
    s.read.1 = .error (s.unreadable (.system x)) := by
  obtain ⟨hp, stream, ho, he, hr⟩ := h.read_nil
  obtain ⟨stream', hread, -⟩ := stream.read_cons ho he
  rw [ByteSource.read_nil hp, hr, refill_eq, hread]
  rfl

/-- **The source delivers the text, and then the events behind its bytes.** -/
theorem Holds.delivers (h : s.Holds d events cs) : ∃ last : ByteSource,
    (Source.bytes s).Delivers (.bytes last) cs ∧ last.Holds d events [] := by
  induction cs generalizing s with
  | nil => exact ⟨s, rfl, h⟩
  | cons c cs ih =>
    obtain ⟨hr, hs⟩ := h.read_cons
    obtain ⟨last, hd, hl⟩ := ih hs
    exact ⟨last, ⟨hr, hd⟩, hl⟩

theorem Holds.exhausted (h : s.Holds d [] []) (hf : d.finish = none) :
    (Source.bytes s).Exhausted := by
  refine .of_step (P := fun s => ∃ b : ByteSource, s = .bytes b ∧ b.Holds d [] []) ⟨s, rfl, h⟩ ?_
  rintro _ ⟨b, rfl, hb⟩
  obtain ⟨b', hr, hb', hp⟩ := hb.read_end hf
  simp only [Source.read, hr]
  exact ⟨trivial, ⟨b', rfl, hb'⟩, hp⟩

end ByteSource

namespace Source

/-- The source of a stream that gives bytes one at a time and then nothing. -/
def ofBytes (medium : Medium) (bytes : List UInt8) (path : Option SourcePath) (e : Encoding) :
    Source :=
  .bytes (.ofStream (.ofEvents medium (bytes.map .byte)) path e)

/-- **A source over the bytes of a text delivers the text, and nothing is behind it.** -/
theorem delivers_ofBytes {e : Encoding} {cs : List Char} {bytes : List UInt8}
    (h : Encodes e cs bytes) (medium : Medium) (path : Option SourcePath) :
    ∃ last : Source, (ofBytes medium bytes path e).Delivers last cs ∧ last.Exhausted := by
  obtain ⟨d, hd, hf⟩ := h.reads
  have hs := ByteSource.holds_ofStream hd medium path []
  rw [List.append_nil] at hs
  obtain ⟨last, hl, hlast⟩ := hs.delivers
  exact ⟨_, hl, hlast.exhausted hf⟩

/-- **A source whose stream fails behind the bytes of a text delivers the text, and then the
failure.** -/
theorem delivers_encoded_failure {e : Encoding} {cs : List Char} {bytes : List UInt8}
    (h : Encodes e cs bytes) (medium : Medium) (path : Option SourcePath) (x : OsError)
    (events : List StreamEvent) : ∃ last : ByteSource,
    (Source.bytes (.ofStream (.ofEvents medium (bytes.map .byte ++ .failure x :: events)) path
      e)).Delivers (.bytes last) cs ∧ last.read.1 = .error (last.unreadable (.system x)) := by
  obtain ⟨d, hd, -⟩ := h.reads
  obtain ⟨last, hl, hlast⟩ :=
    (ByteSource.holds_ofStream hd medium path (.failure x :: events)).delivers
  exact ⟨last, hl, hlast.read_failure⟩

end Source

end KayLexer
