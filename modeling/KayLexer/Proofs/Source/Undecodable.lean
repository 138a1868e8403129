import KayLexer.Proofs.Encoding.Refusal
import KayLexer.Proofs.Source.Encoded

/-!
Byte sources whose bytes cannot be decoded. A source meets such bytes at the read of the character
that they should have been a part of. Main statement: a read fails by its bytes exactly where the
decoder refuses what comes next of the stream.
-/

namespace KayLexer

open Encoding (Decoder DecodeError)

namespace ByteStream

/-- What is read is the next event, or stands for the end of the stream. -/
theorem events_of_read {s s' : ByteStream} {e : StreamEvent} (h : s.read = (some e, s')) :
    s.isClosed = false ∧ (s.events = e :: s'.events ∨ s.events = [] ∧ e = .nothing) := by
  unfold read at h
  split at h
  · cases h
  · next ho =>
    refine ⟨by simpa using ho, ?_⟩
    split at h
    all_goals
      next he =>
        cases h
        simp [he]

/-- A read takes at most one of the events that a function finds something in. -/
theorem filterMap_read {α : Type} {f : StreamEvent → Option α} (hf : f .nothing = none)
    (s : ByteStream) :
    s.events.filterMap f = (s.read.1.bind f).toList ++ s.read.2.events.filterMap f := by
  unfold read
  split
  · rfl
  · split
    · next he =>
      rw [he, Option.bind_some, hf]
      rfl
    · next e es he =>
      rw [he, List.filterMap_cons, Option.bind_some]
      cases f e <;> rfl

theorem bytes_read (s : ByteStream) :
    s.bytes = (s.read.1.bind StreamEvent.byte?).toList ++ s.read.2.bytes :=
  s.filterMap_read rfl

end ByteStream

namespace ByteSource

variable {s : ByteSource} {x : DecodeError}

/-! ### Refused bytes -/

/-- The next character is lost to bytes, or to the end of them, that cannot be decoded. -/
structure Undecodable (s : ByteSource) (x : DecodeError) : Prop where
  pending : s.pending = []
  isOpen : s.stream.isClosed = false
  refuses : s.decoder.Refuses s.stream.events x

theorem decodeError_injective (s : ByteSource) {x y : DecodeError}
    (h : s.decodeError x = s.decodeError y) : x = y := by
  cases x <;> cases y <;> cases h <;> rfl

theorem refill_of_refuses (ho : s.stream.isClosed = false)
    (h : s.decoder.Refuses s.stream.events x) : s.refill.1 = .error (s.decodeError x) := by
  obtain ⟨stream, path, decoder, pending, position⟩ := s
  simp only at ho h
  generalize hes : stream.events = es at h
  induction h generalizing stream with
  | byte hf =>
    obtain ⟨stream', hread, -⟩ := stream.read_cons ho hes
    rw [refill_eq, hread]
    simp only [hf]
  | later hf _ ih =>
    obtain ⟨stream', hread, ho', hes'⟩ := stream.read_cons ho hes
    rw [refill_nil hread hf]
    exact ih stream' ho' hes'
  | pause hf =>
    obtain ⟨stream', hread, -⟩ := stream.read_cons ho hes
    rw [refill_eq, hread]
    simp only [hf]
  | ending hf =>
    obtain ⟨stream', hread, -⟩ := stream.read_nil ho hes
    rw [refill_eq, hread]
    simp only [hf]

theorem refuses_of_refill (h : s.refill.1 = .error (s.decodeError x)) :
    s.stream.isClosed = false ∧ s.decoder.Refuses s.stream.events x := by
  fun_induction refill s with
  | case1 s stream hread => cases x <;> cases h
  | case2 s e stream hread => cases x <;> cases h
  | case3 s stream hread hf => cases h
  | case4 s stream hread y hf =>
    obtain rfl := s.decodeError_injective (Except.error.inj h)
    obtain ⟨ho, hes | ⟨hes, -⟩⟩ := ByteStream.events_of_read hread
    · rw [hes]
      exact ⟨ho, .pause hf⟩
    · rw [hes]
      exact ⟨ho, .ending hf⟩
  | case5 s stream b hread d hf ih =>
    obtain ⟨ho, -⟩ := ByteStream.events_of_read hread
    rw [ByteStream.events_of_read_byte hread]
    exact ⟨ho, .later hf (ih h).2⟩
  | case6 s stream b hread c cs d hf => cases h
  | case7 s stream b hread y d hf =>
    obtain rfl := s.decodeError_injective (Except.error.inj h)
    obtain ⟨ho, -⟩ := ByteStream.events_of_read hread
    rw [ByteStream.events_of_read_byte hread]
    exact ⟨ho, .byte hf⟩

/-- **A read fails by its bytes exactly where the decoder refuses them.** -/
theorem undecodable_iff : s.Undecodable x ↔ s.read.1 = .error (s.decodeError x) := by
  constructor
  · intro h
    have hr := refill_of_refuses h.isOpen h.refuses
    rw [read_nil h.pending]
    split
    all_goals
      next hs =>
        rw [hs] at hr
        cases hr <;> rfl
  · intro h
    unfold read at h
    split at h
    · cases h
    · next hp =>
      split at h
      · cases h
      · cases h
      · next hs =>
        have hr : s.refill.1 = .error (s.decodeError x) := by
          rw [hs]
          exact congrArg Except.error (Except.error.inj h)
        obtain ⟨ho, hd⟩ := refuses_of_refill hr
        exact ⟨hp, ho, hd⟩

/-! ### In the middle of the bytes -/

/-- The source is somewhere in the bytes `all`, which are in the encoding `e`. -/
structure Within (path : Option SourcePath) (e : Encoding) (all : List UInt8) (s : ByteSource) :
    Prop where
  path : s.path = path
  reached : Decoder.Reached e all s.decoder s.stream.bytes

variable {path : Option SourcePath} {e : Encoding} {all : List UInt8} {stream : ByteStream}

theorem Within.ofStream (stream : ByteStream) (path : Option SourcePath) (e : Encoding) :
    Within path e stream.bytes (.ofStream stream path e) :=
  ⟨rfl, Decoder.reached_start e stream.bytes⟩

/-- A read of the stream that gives no byte. -/
theorem Within.pass {o : Option StreamEvent} (h : s.Within path e all)
    (hread : s.stream.read = (o, stream)) (ho : o.bind StreamEvent.byte? = none) :
    Within path e all { s with stream } := by
  have hd := h.reached
  rw [ByteStream.bytes_read, hread, ho] at hd
  exact ⟨h.path, hd⟩

/-- A read of the stream that gives a byte, which is fed to the decoder. -/
theorem Within.feed {b : UInt8} {r : Except DecodeError (List Char)} {decoder : Decoder}
    (h : s.Within path e all) (hread : s.stream.read = (some (.byte b), stream))
    (hf : s.decoder.feed b = (r, decoder)) : Within path e all { s with stream, decoder } := by
  have hd := h.reached
  rw [ByteStream.bytes_read, hread] at hd
  have := Decoder.Reached.feed hd
  rw [hf] at this
  exact ⟨h.path, this⟩

theorem Within.refill (h : s.Within path e all) : s.refill.2.Within path e all := by
  fun_induction ByteSource.refill s with
  | case1 s stream hread | case2 s x stream hread | case3 s stream hread hf
  | case4 s stream hread x hf => exact h.pass hread rfl
  | case5 s stream b hread d hf ih => exact ih (h.feed hread hf)
  | case6 s stream b hread c cs d hf | case7 s stream b hread x d hf => exact h.feed hread hf

theorem Within.read (h : s.Within path e all) : s.read.2.Within path e all :=
  read_invariant (fun h => ⟨h.path, h.reached⟩) h h.refill

theorem Within.close (h : s.Within path e all) : s.close.Within path e all :=
  ⟨h.path, h.reached⟩

end ByteSource

/-- What a byte source delivers leaves a byte source, of which holds what reads preserve. -/
theorem Source.Delivers.bytes {P : ByteSource → Prop} (read : ∀ {s}, P s → P s.read.2)
    {s : ByteSource} {last : Source} {cs : List Char} (h : (Source.bytes s).Delivers last cs)
    (hs : P s) : ∃ l, last = .bytes l ∧ P l := by
  induction cs generalizing s with
  | nil =>
    cases h
    exact ⟨s, rfl, hs⟩
  | cons c cs ih => exact ih h.2 (read hs)

end KayLexer
