import KayLexer.Proofs.Source.Reading

/-!
Streams that are interrupted. A read of a stream may fail, and it may give no byte although more are
to come. A source that is read on goes on where it was: the bytes of a character that is begun stay
with the decoder, and the position stays where it is. What a source gives is therefore said of its
bytes alone, by a decoder that goes on behind all that it refuses. Main statement: interruptions
lose no character, and each failure of the stream is met by one read.
-/

namespace KayLexer

open Encoding (Decoder DecodeError)
open Position (start)

/-! ### Events and errors -/

namespace StreamEvent

def isByte (e : StreamEvent) : Bool := e.byte?.isSome

/-- The failure that an event is. -/
def failure? : StreamEvent → Option OsError
  | .failure e => some e
  | _ => none

theorem filterMap_byte?_filter (es : List StreamEvent) :
    (es.filter isByte).filterMap byte? = es.filterMap byte? := by
  rw [List.filterMap_filter]
  congr 1
  funext e
  cases e <;> rfl

end StreamEvent

/-- The failure of the stream that an error wraps. -/
def ReadError.failure? : ReadError → Option OsError
  | .unreadable ⟨_, _, .system e⟩ => some e
  | _ => none

/-- The failure of the stream that a read has met. -/
def failureMet? {α : Type} : Except ReadError α → Option OsError
  | .ok _ => none
  | .error e => e.failure?

/-- The characters that come of bytes, where a decoder goes on behind the bytes that it refuses. -/
def Encoding.Decoder.gives (d : Decoder) : List UInt8 → List Char
  | [] => []
  | b :: bs => (d.feed b).1.toOption.getD [] ++ (d.feed b).2.gives bs

namespace ByteSource

variable {s : ByteSource}

/-! ### One read -/

/-- The characters still to come. -/
def toCome (s : ByteSource) : List Char := s.pending ++ s.decoder.gives s.stream.bytes

/-- The failures of the stream still to come. -/
def failures (s : ByteSource) : List OsError := s.stream.events.filterMap StreamEvent.failure?

theorem failure?_decodeError (s : ByteSource) (x : DecodeError) :
    (s.decodeError x).failure? = none := by
  cases x <;> rfl

theorem gives_refill (s : ByteSource) :
    s.refill.1.toOption.getD [] ++ s.refill.2.decoder.gives s.refill.2.stream.bytes =
      s.decoder.gives s.stream.bytes := by
  fun_induction refill s with
  | case1 s stream hread | case2 s e stream hread | case3 s stream hread hf
  | case4 s stream hread x hf =>
    rw [s.stream.bytes_read, hread]
    rfl
  | case5 s stream b hread d hf ih =>
    rw [ih, s.stream.bytes_read, hread]
    simp [Decoder.gives, StreamEvent.byte?, hf, Except.toOption]
  | case6 s stream b hread c cs d hf | case7 s stream b hread x d hf =>
    rw [s.stream.bytes_read, hread]
    simp [Decoder.gives, StreamEvent.byte?, hf, Except.toOption]

theorem failures_refill (s : ByteSource) :
    s.failures = (failureMet? s.refill.1).toList ++ s.refill.2.failures := by
  have taken {s : ByteSource} {o : Option StreamEvent} {stream : ByteStream}
      (hread : s.stream.read = (o, stream)) : s.failures =
        (o.bind StreamEvent.failure?).toList ++ stream.events.filterMap StreamEvent.failure? := by
    have h := s.stream.filterMap_read (f := StreamEvent.failure?) rfl
    rw [hread] at h
    exact h
  fun_induction refill s with
  | case1 s stream hread | case2 s e stream hread | case3 s stream hread hf
  | case6 s stream b hread c cs d hf => exact taken hread
  | case4 s stream hread x hf | case7 s stream b hread x d hf =>
    rw [taken hread, failureMet?, failure?_decodeError]
    rfl
  | case5 s stream b hread d hf ih => exact (taken hread).trans ih

/-- A character that is given is no longer to come, and none is lost by a read that gives none. -/
theorem toCome_read (s : ByteSource) :
    s.toCome = s.read.1.toOption.join.toList ++ s.read.2.toCome := by
  have hg := s.gives_refill
  have hp := s.pending_refill
  unfold read
  split
  · next c cs hs => rw [toCome, hs]; rfl
  · next hs =>
    rw [hs] at hp
    rw [toCome, hs]
    split
    · next hr =>
      rw [hr] at hg
      exact hg.symm
    all_goals
      next hr =>
        rw [hr] at hg hp
        rw [toCome, hp]
        exact hg.symm

theorem failures_read (s : ByteSource) :
    s.failures = (failureMet? s.read.1).toList ++ s.read.2.failures := by
  have hf := s.failures_refill
  unfold read
  split
  · rfl
  · split
    all_goals
      next hr =>
        rw [hr] at hf
        exact hf

/-- The position is moved by the character that is given, and by nothing else. -/
theorem afterText_read (s : ByteSource) :
    s.read.2.position = s.position.afterText s.read.1.toOption.join.toList := by
  cases hr : s.read.1 with
  | error e => exact position_read_of_ne (by simp [hr])
  | ok o =>
    cases o with
    | none => exact position_read_of_ne (by simp [hr])
    | some c => exact position_read hr

/-! ### Many reads -/

/-- What a number of reads give, whatever they give. -/
def answers (s : ByteSource) : Nat → List (Except ReadError (Option Char))
  | 0 => []
  | n + 1 => s.read.1 :: s.read.2.answers n

/-- The source behind a number of reads. -/
def after (s : ByteSource) : Nat → ByteSource
  | 0 => s
  | n + 1 => s.read.2.after n

/-- The characters that a number of reads give. -/
def given (s : ByteSource) (n : Nat) : List Char :=
  (s.answers n).filterMap fun r => r.toOption.join

/-- The failures of the stream that a number of reads meet. -/
def met (s : ByteSource) (n : Nat) : List OsError := (s.answers n).filterMap failureMet?

theorem filterMap_answers {α : Type} (f : Except ReadError (Option Char) → Option α)
    (s : ByteSource) (n : Nat) : (s.answers (n + 1)).filterMap f =
      (f s.read.1).toList ++ (s.read.2.answers n).filterMap f := by
  rw [answers, List.filterMap_cons]
  cases f s.read.1 <;> rfl

/-- What each read hands over of a list, many reads hand over of it in order. -/
theorem filterMap_answers_append {α : Type} {f : Except ReadError (Option Char) → Option α}
    {left : ByteSource → List α}
    (step : ∀ s : ByteSource, left s = (f s.read.1).toList ++ left s.read.2)
    (s : ByteSource) (n : Nat) : (s.answers n).filterMap f ++ left (s.after n) = left s := by
  induction n generalizing s with
  | zero => rfl
  | succ n ih => rw [filterMap_answers, List.append_assoc, after, ih, step s]

/-- **What is given and what is still to come make one text.** -/
theorem given_append_toCome (s : ByteSource) (n : Nat) :
    s.given n ++ (s.after n).toCome = s.toCome :=
  filterMap_answers_append toCome_read s n

theorem met_append_failures (s : ByteSource) (n : Nat) :
    s.met n ++ (s.after n).failures = s.failures :=
  filterMap_answers_append failures_read s n

theorem position_after (s : ByteSource) (n : Nat) :
    (s.after n).position = s.position.afterText (s.given n) := by
  induction n generalizing s with
  | zero => rfl
  | succ n ih =>
    rw [after, ih, afterText_read, ← Position.afterText_append, given, given, filterMap_answers]

theorem path_after (s : ByteSource) (n : Nat) : (s.after n).path = s.path := by
  induction n generalizing s with
  | zero => rfl
  | succ n ih => exact (ih s.read.2).trans s.path_read

/-! ### Until the stream has no more events -/

/-- The source gives each character at the read that has the last of its bytes, so that none is left
when the stream has no more events. -/
structure Prompt (s : ByteSource) : Prop where
  isOpen : s.stream.isClosed = false
  pending : s.pending = []
  mode : s.decoder.mode.most = 1

theorem prompt_ofStream {e : Encoding} (he : e ≠ .big5hkscs) (medium : Medium)
    (events : List StreamEvent) (path : Option SourcePath) :
    (ofStream (.ofEvents medium events) path e).Prompt := by
  refine ⟨rfl, rfl, ?_⟩
  cases e with
  | big5hkscs => exact absurd rfl he
  | _ => rfl

/-- A read of the stream that feeds no byte to the decoder. -/
theorem Prompt.pass {o : Option StreamEvent} {stream : ByteStream} (h : s.Prompt)
    (hread : s.stream.read = (o, stream)) : Prompt { s with stream } :=
  ⟨(ByteStream.isClosed_of_read hread).trans h.isOpen, h.pending, h.mode⟩

theorem Prompt.feed {o : Option StreamEvent} {b : UInt8} {r : Except DecodeError (List Char)}
    {stream : ByteStream} {decoder : Decoder} (h : s.Prompt) (hread : s.stream.read = (o, stream))
    (hf : s.decoder.feed b = (r, decoder)) : Prompt { s with stream, decoder } := by
  refine ⟨(ByteStream.isClosed_of_read hread).trans h.isOpen, h.pending, ?_⟩
  have hm := s.decoder.mode_feed b
  rw [hf] at hm
  change decoder.mode = _ at hm
  rw [hm]
  rcases s.decoder.mode.mode_read s.decoder.kept b with hr | hr | ⟨order, hr⟩
  · rw [hr, h.mode]
  · rw [hr]; rfl
  · rw [hr]; rfl

theorem Prompt.refill (h : s.Prompt) :
    s.refill.2.Prompt ∧ ∀ c cs, s.refill.1 = .ok (c :: cs) → cs = [] := by
  fun_induction ByteSource.refill s with
  | case1 s stream hread | case2 s e stream hread | case3 s stream hread hf
  | case4 s stream hread x hf => exact ⟨h.pass hread, by simp⟩
  | case5 s stream b hread d hf ih => exact ih (h.feed hread hf)
  | case6 s stream b hread c cs d hf =>
    refine ⟨h.feed hread hf, ?_⟩
    rintro _ _ ⟨⟩
    have hl := Decoder.length_chars_feed hf
    rw [h.mode] at hl
    exact List.length_eq_zero_iff.1 (Nat.le_zero.1 (Nat.le_of_succ_le_succ hl))
  | case7 s stream b hread x d hf => exact ⟨h.feed hread hf, by simp⟩

theorem Prompt.read (h : s.Prompt) : s.read.2.Prompt := by
  obtain ⟨hs, hcs⟩ := h.refill
  rw [read_nil h.pending]
  split
  · next c cs s' hr =>
    rw [hr] at hs hcs
    exact ⟨hs.isOpen, hcs c cs rfl, hs.mode⟩
  all_goals
    next hr =>
      rw [hr] at hs
      exact hs

theorem events_length_refill_lt (ho : s.stream.isClosed = false) (he : s.stream.events ≠ []) :
    s.refill.2.stream.events.length < s.stream.events.length := by
  have taken {e : StreamEvent} {stream : ByteStream} (hread : s.stream.read = (some e, stream)) :
      stream.events.length < s.stream.events.length := by
    obtain ⟨-, h | ⟨h, -⟩⟩ := ByteStream.events_of_read hread
    · rw [h]
      exact Nat.lt_succ_self _
    · exact absurd h he
  fun_cases refill s with
  | case1 stream hread => rw [ByteStream.isClosed_of_refusal hread] at ho; cases ho
  | case2 e stream hread | case3 stream hread hf | case4 stream hread x hf
  | case6 stream b hread c cs d hf | case7 stream b hread x d hf => exact taken hread
  | case5 b stream hread d hf =>
    exact Nat.lt_of_le_of_lt (events_length_refill_le { s with stream, decoder := d }) (taken hread)

/-- Each read takes an event, where there is one. -/
theorem Prompt.events_length_read (h : s.Prompt) :
    s.read.2.stream.events.length ≤ s.stream.events.length - 1 := by
  have hle : s.refill.2.stream.events.length ≤ s.stream.events.length - 1 := by
    by_cases he : s.stream.events = []
    · have := s.events_length_refill_le
      simpa [he] using this
    · exact Nat.le_sub_one_of_lt (events_length_refill_lt h.isOpen he)
  rw [read_nil h.pending]
  split
  all_goals
    next hr =>
      rw [hr] at hle
      exact hle

theorem Prompt.after (h : s.Prompt) (n : Nat) : (s.after n).Prompt ∧
    (s.after n).stream.events.length ≤ s.stream.events.length - n := by
  induction n generalizing s with
  | zero => exact ⟨h, Nat.le_refl _⟩
  | succ n ih =>
    obtain ⟨hp, hl⟩ := ih h.read
    have := h.events_length_read
    refine ⟨hp, ?_⟩
    rw [ByteSource.after]
    omega

/-- So many reads as there are events leave none of them. -/
theorem Prompt.events_after (h : s.Prompt) :
    (s.after s.stream.events.length).stream.events = [] := by
  have hl := (h.after s.stream.events.length).2
  rw [Nat.sub_self] at hl
  exact List.length_eq_zero_iff.1 (Nat.le_zero.1 hl)

/-- Where the stream has no more events, all is given. -/
theorem Prompt.given_eq (h : s.Prompt) {n : Nat} (hn : (s.after n).stream.events = []) :
    s.given n = s.decoder.gives s.stream.bytes := by
  have hp := (h.after n).1.pending
  have hg := s.given_append_toCome n
  rw [toCome, toCome, hp, h.pending, ByteStream.bytes, hn] at hg
  simpa [Decoder.gives] using hg

/-- **Interruptions lose nothing.** Once the events are used up, which takes no more reads than
there are events, a source has given the same characters whether or not its stream failed or gave
nothing in between. Each failure is met by one read, in the order of the events. At every moment the
position is the one behind the characters given so far, and a read that fails reports it. -/
theorem given_filter_isByte {e : Encoding} (he : e ≠ .big5hkscs) (medium : Medium)
    (events : List StreamEvent) (path : Option SourcePath) :
    let s := ofStream (.ofEvents medium events) path e
    let t := ofStream (.ofEvents medium (events.filter StreamEvent.isByte)) path e
    ((s.after events.length).stream.events = [] ∧
      (t.after (events.filter StreamEvent.isByte).length).stream.events = []) ∧
    (∀ n m, (s.after n).stream.events = [] → (t.after m).stream.events = [] →
      s.given n = t.given m) ∧
    (∀ n, s.met n ++ (s.after n).failures = events.filterMap StreamEvent.failure?) ∧
    ∀ n, (s.after n).position = start.afterText (s.given n) ∧
      ∀ x, (s.after n).read.1 = .error (.unreadable x) →
        x = ⟨path, start.afterText (s.given n), x.reason⟩ := by
  intro s t
  have hs : s.Prompt := prompt_ofStream he medium events path
  have ht : t.Prompt := prompt_ofStream he medium _ path
  refine ⟨⟨hs.events_after, ht.events_after⟩, ?_, s.met_append_failures, ?_⟩
  · intro n m hn hm
    rw [hs.given_eq hn, ht.given_eq hm]
    exact congrArg _ (StreamEvent.filterMap_byte?_filter events).symm
  · intro n
    have hp : (s.after n).position = start.afterText (s.given n) := s.position_after n
    refine ⟨hp, ?_⟩
    intro x hx
    have := eq_of_unreadable hx
    rwa [hp, path_after] at this

/-- A failure at the beginning, and another one inside a character, where the stream also gives
nothing once. -/
theorem given_filter_isByte_euro :
    let x := OsError.plain "device not ready"
    let events := [.failure x, .byte 0xe2, .nothing, .byte 0x82, .failure x, .byte 0xac, .byte 0x78]
    let s := ofStream (.ofEvents .device events) none .utf8
    Encoding.utf8 ≠ .big5hkscs ∧ s.given 7 = ['€', 'x'] ∧ s.met 7 = [x, x] ∧
      (s.after 7).position = ⟨1, 3⟩ := by
  intro x events s
  have hall := given_filter_isByte (e := .utf8) (by decide) .device events none
  obtain ⟨⟨hs, ht⟩, hg, hf, hp⟩ := hall
  have hs : (s.after 7).stream.events = [] := hs
  have hgiven : s.given 7 = ['€', 'x'] := by
    rw [hg 7 _ hs ht, (prompt_ofStream (by decide) .device _ none).given_eq ht]
    decide
  refine ⟨by decide, hgiven, ?_, ?_⟩
  · have hmet : s.met 7 ++ (s.after 7).failures = [x, x] := hf 7
    rwa [failures, hs, List.filterMap_nil, List.append_nil] at hmet
  · rw [(hp 7).1, hgiven]
    decide

end ByteSource

end KayLexer
