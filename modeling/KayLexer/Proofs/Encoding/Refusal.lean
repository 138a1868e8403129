import KayLexer.ByteStream
import KayLexer.Proofs.Encoding.Encoder

/-!
What a decoder refuses. Most of it is bytes that have no meaning; besides there is UTF-16 without a
byte order mark, and an encoding in which nothing can be read. Main statement: the mark is missed
only where UTF-16 was to begin, and only if the bytes do not begin with one.
-/

namespace KayLexer

/-- The byte of an event. -/
def StreamEvent.byte? : StreamEvent → Option UInt8
  | .byte b => some b
  | _ => none

/-- The bytes still to come. -/
def ByteStream.bytes (s : ByteStream) : List UInt8 := s.events.filterMap StreamEvent.byte?

namespace Encoding

/-! ### Refusing -/

/-- The decoder refuses the next bytes, or the end of the input behind them, before it has completed
a character. A read of the stream that gives nothing is an end of the input. -/
inductive Decoder.Refuses : Decoder → List StreamEvent → DecodeError → Prop where
  | byte {d d' : Decoder} {b : UInt8} {es : List StreamEvent} {x : DecodeError} :
      d.feed b = (.error x, d') → Refuses d (.byte b :: es) x
  | later {d d' : Decoder} {b : UInt8} {es : List StreamEvent} {x : DecodeError} :
      d.feed b = (.ok [], d') → Refuses d' es x → Refuses d (.byte b :: es) x
  | pause {d : Decoder} {es : List StreamEvent} {x : DecodeError} :
      d.finish = some x → Refuses d (.nothing :: es) x
  | ending {d : Decoder} {x : DecodeError} : d.finish = some x → Refuses d [] x

/-! ### Errors and modes -/

/-- The mode that an error is met in, if the error is not about bytes without a meaning. -/
def DecodeError.mode? : DecodeError → Option Mode
  | .malformed _ => none
  | .missingByteOrderMark => some .utf16Start
  | .undefinedEncoding => some .undefined

namespace Mode

variable {mode m : Mode} {kept : List UInt8} {b : UInt8} {x : DecodeError}

theorem mode?_of_outcome {r : Reading} (h : outcome r = .error x) : x.mode? = none := by
  cases r <;> cases h
  rfl

/-- An error that is not about bytes without a meaning is met in its mode only. -/
theorem mode?_of_read (h : (mode.read kept b).2 = .error x) (hx : x.mode? = some m) :
    mode = m := by
  have settled {r : Reading} (h : outcome r = .error x) : mode = m := by
    rw [mode?_of_outcome h] at hx
    cases hx
  cases mode with
  | utf8Start =>
    simp only [read, readUtf8Start] at h
    split at h
    · cases h
    · split at h
      · cases h
      · exact settled h
  | utf16Start =>
    simp only [read, readUtf16Start] at h
    split at h
    · cases h
    · split at h
      · cases h
        exact Option.some.inj hx
      · exact settled h
  | latin1 => cases h
  | undefined =>
    cases h
    exact Option.some.inj hx
  | _ => exact settled h

/-- The end of the input is refused for bytes without a meaning, or as everything is. -/
theorem mode?_of_finish (h : mode.finish kept = some x) :
    x.mode? = none ∨ x = .undefinedEncoding ∧ mode = .undefined := by
  have malformed {o : Option Malformed} (h : o.map .malformed = some x) : x.mode? = none := by
    obtain ⟨_, -, rfl⟩ := Option.map_eq_some_iff.1 h
    rfl
  cases mode with
  | utf8Start | ascii | latin1 | windows1252 => cases h
  | undefined =>
    cases h
    exact Or.inr ⟨rfl, rfl⟩
  | _ => exact Or.inl (malformed h)

/-- A byte leaves the mode as it is, or behind a byte order mark settles it. -/
theorem mode_read (mode : Mode) (kept : List UInt8) (b : UInt8) :
    (mode.read kept b).1 = mode ∨ (mode.read kept b).1 = .utf8 ∨
      ∃ order, (mode.read kept b).1 = .utf16 order := by
  cases mode with
  | utf8Start =>
    simp only [read, readUtf8Start]
    split
    · exact Or.inr (Or.inl rfl)
    · split
      · exact Or.inl rfl
      · exact Or.inr (Or.inl rfl)
  | utf16Start =>
    simp only [read, readUtf16Start]
    split
    · exact Or.inr (Or.inr ⟨_, rfl⟩)
    · split
      all_goals exact Or.inl rfl
  | _ => exact Or.inl rfl

/-- The modes of these errors are never entered. -/
theorem eq_of_mode_read (hx : x.mode? = some m) (h : (mode.read kept b).1 = m) : mode = m := by
  rcases mode_read mode kept b with hr | hr | ⟨order, hr⟩
  · exact hr.symm.trans h
  · rw [← h, hr] at hx
    cases x <;> cases hx
  · rw [← h, hr] at hx
    cases x <;> cases hx

end Mode

namespace Decoder

variable {d d' : Decoder} {b : UInt8} {bs : List UInt8} {order : ByteOrder} {x : DecodeError}

theorem mode_feed (d : Decoder) (b : UInt8) : (d.feed b).2.mode = (d.mode.read d.kept b).1 := by
  unfold feed
  split
  all_goals next h => rw [h]

theorem read_of_feed (h : d.feed b = (.error x, d')) : (d.mode.read d.kept b).2 = .error x := by
  unfold feed at h
  split at h <;> cases h
  next h => rw [h]

/-! ### Byte order marks -/

/-- A UTF-16 decoder whose input begins with the byte order mark: it has still to complete the
mark, or it has read it. -/
inductive Marked (order : ByteOrder) (d : Decoder) (bs : List UInt8) : Prop where
  | before : d.mode = .utf16Start → d.kept = [] → order.mark <+: bs → Marked order d bs
  | within {a : UInt8} : d.mode = .utf16Start → d.kept = [a] → order.mark <+: a :: bs →
      Marked order d bs
  | behind : d.mode = .utf16 order → Marked order d bs

theorem feed_mark {a b : UInt8} (h : order.mark = [a, b]) :
    feed ⟨.utf16Start, [a]⟩ b = (.ok [], ⟨.utf16 order, []⟩) := by
  have hm : ByteOrder.ofMark? a b = some order := by
    cases order
    all_goals
      cases h
      decide
  simp [feed, Mode.read, Mode.readUtf16Start, hm]

theorem feed_nil (b : UInt8) : feed ⟨.utf16Start, []⟩ b = (.ok [], ⟨.utf16Start, [b]⟩) := by
  simp [feed, Mode.read, Mode.readUtf16Start, Utf16.read, Mode.outcome]

/-- **A mark is read to its end, and not missed.** -/
theorem Marked.feed (h : Marked order d (b :: bs)) : Marked order (d.feed b).2 bs ∧
    (d.feed b).1 ≠ .error .missingByteOrderMark := by
  obtain ⟨mode, kept⟩ := d
  have mark : ∃ a b, order.mark = [a, b] := by
    cases order
    all_goals exact ⟨_, _, rfl⟩
  obtain ⟨a₁, a₂, hmark⟩ := mark
  cases h with
  | before hm hk hp =>
    obtain rfl : mode = _ := hm
    obtain rfl : kept = _ := hk
    rw [feed_nil]
    exact ⟨.within rfl rfl hp, by simp⟩
  | @within a hm hk hp =>
    obtain rfl : mode = _ := hm
    obtain rfl : kept = _ := hk
    rw [hmark, List.cons_prefix_cons, List.cons_prefix_cons] at hp
    obtain ⟨rfl, rfl, -⟩ := hp
    rw [feed_mark hmark]
    exact ⟨.behind rfl, by simp⟩
  | behind hm =>
    obtain rfl : mode = _ := hm
    refine ⟨.behind (mode_feed _ b), ?_⟩
    intro hf
    have hr := read_of_feed (Prod.ext hf rfl)
    cases Mode.mode?_of_read hr rfl

/-! ### Where refusals come from -/

/-- What bytes preserve holds of the decoder that refuses, be it a byte or the end. -/
theorem Refuses.exists_error {P : Decoder → List UInt8 → Prop}
    (feed : ∀ {d b bs}, P d (b :: bs) → P (d.feed b).2 bs) {es : List StreamEvent}
    (h : d.Refuses es x) (hd : P d (es.filterMap StreamEvent.byte?)) :
    ∃ d₁, (∃ b bs, P d₁ (b :: bs) ∧ (d₁.feed b).1 = .error x) ∨
      ∃ bs, P d₁ bs ∧ d₁.finish = some x := by
  induction h with
  | byte hf => exact ⟨_, Or.inl ⟨_, _, hd, by rw [hf]⟩⟩
  | later hf _ ih =>
    have := feed hd
    rw [hf] at this
    exact ih this
  | pause hf | ending hf => exact ⟨_, Or.inr ⟨_, hd, hf⟩⟩

/-- What holds of a decoder of the encoding `e` in the middle of the bytes `all`, of which `bs` are
still to come: it is in the mode of one of these errors only if it began there, and a byte order
mark in front of the bytes is read. -/
structure Reached (e : Encoding) (all : List UInt8) (d : Decoder) (bs : List UInt8) : Prop where
  mode : ∀ (x : DecodeError) {m : Mode}, x.mode? = some m → d.mode = m → e.initialMode = m
  marked : ∀ {order : ByteOrder}, e = .utf16 → order.mark <+: all → Marked order d bs

theorem reached_start (e : Encoding) (all : List UInt8) : Reached e all (start e) all := by
  refine ⟨fun _ _ _ h => h, ?_⟩
  rintro order rfl hp
  exact .before rfl rfl hp

theorem Reached.feed {e : Encoding} {all : List UInt8} (h : Reached e all d (b :: bs)) :
    Reached e all (d.feed b).2 bs := by
  refine ⟨?_, fun he hp => (h.marked he hp).feed.1⟩
  intro x m hx hm
  rw [mode_feed] at hm
  exact h.mode x hx (Mode.eq_of_mode_read hx hm)

/-- **What is refused has no meaning, or is UTF-16 without a mark, or is in no encoding at all.** -/
theorem Refuses.malformed_or {e : Encoding} {all : List UInt8} {es : List StreamEvent}
    (h : d.Refuses es x) (hd : Reached e all d (es.filterMap StreamEvent.byte?)) :
    (∃ m, x = .malformed m) ∨
      x = .missingByteOrderMark ∧ e = .utf16 ∧ (∀ order : ByteOrder, ¬ order.mark <+: all) ∨
      x = .undefinedEncoding ∧ e = .undefined := by
  obtain ⟨d₁, hd₁⟩ := h.exists_error Reached.feed hd
  cases x with
  | malformed m => exact Or.inl ⟨m, rfl⟩
  | missingByteOrderMark =>
    rcases hd₁ with ⟨b, bs, hr, hf⟩ | ⟨bs, -, hf⟩
    · have hx := Mode.mode?_of_read (read_of_feed (Prod.ext hf rfl)) rfl
      have hm := hr.mode .missingByteOrderMark rfl hx
      have he : e = .utf16 := by
        cases e <;> first | rfl | cases hm
      exact Or.inr (Or.inl ⟨rfl, he, fun order hp => (hr.marked he hp).feed.2 hf⟩)
    · rcases Mode.mode?_of_finish hf with hx | ⟨hx, -⟩
      all_goals cases hx
  | undefinedEncoding =>
    have hm : e.initialMode = .undefined := by
      rcases hd₁ with ⟨b, bs, hr, hf⟩ | ⟨bs, hr, hf⟩
      · have hx := Mode.mode?_of_read (read_of_feed (Prod.ext hf rfl)) rfl
        exact hr.mode .undefinedEncoding rfl hx
      · rcases Mode.mode?_of_finish hf with hx | ⟨-, hm⟩
        · cases hx
        · exact hr.mode .undefinedEncoding rfl hm
    have he : e = .undefined := by
      cases e <;> first | rfl | cases hm
    exact Or.inr (Or.inr ⟨rfl, he⟩)

end Decoder

end Encoding

end KayLexer
