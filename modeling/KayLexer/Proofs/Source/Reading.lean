import KayLexer.Proofs.Source.Undecodable

/-!
Reading a source to its end. What comes of it is what the source delivers up to the first read that
gives no character. Main statement: in an encoding that needs no byte order mark nothing but a lost
character keeps a source from being read to its end.
-/

namespace KayLexer

namespace Source

theorem Delivers.cons {s s' last : Source} {c : Char} {cs : List Char}
    (hr : s.read = (.ok (some c), s')) (h : s'.Delivers last cs) : s.Delivers last (c :: cs) := by
  refine ⟨by rw [hr], ?_⟩
  rw [hr]
  exact h

/-- Reading to the end is reading on until there is no character. -/
theorem delivers_of_readAll (s : Source) : ∃ (last : Source) (cs : List Char),
    s.Delivers last cs ∧ (s.readAll.1 = .ok cs ∧ last.read.1 = .ok none ∨
      ∃ e, s.readAll.1 = .error e ∧ last.read.1 = .error e) := by
  fun_induction readAll s with
  | case1 s c s' hr cs s'' ha ih =>
    obtain ⟨last, ds, hd, ih⟩ := ih
    rw [ha] at ih
    rcases ih with ⟨h, hl⟩ | ⟨e, h, -⟩
    · cases h
      exact ⟨last, c :: cs, hd.cons hr, Or.inl ⟨rfl, hl⟩⟩
    · cases h
  | case2 s c s' hr e s'' ha ih =>
    obtain ⟨last, ds, hd, ih⟩ := ih
    rw [ha] at ih
    rcases ih with ⟨h, -⟩ | ⟨e', h, hl⟩
    · cases h
    · cases h
      exact ⟨last, c :: ds, hd.cons hr, Or.inr ⟨e, rfl, hl⟩⟩
  | case3 s s' hr =>
    refine ⟨s, [], rfl, Or.inl ⟨rfl, ?_⟩⟩
    rw [hr]
  | case4 s e s' hr =>
    refine ⟨s, [], rfl, Or.inr ⟨e, rfl, ?_⟩⟩
    rw [hr]

end Source

namespace ByteStream

variable {s s' : ByteStream}

/-- A read takes an event and is counted, and nothing else happens to the stream. -/
theorem eq_of_read {o : Option StreamEvent} (h : s.read = (o, s')) :
    s'.medium = s.medium ∧ s'.closes = s.closes := by
  unfold read at h
  split at h
  · cases h
    exact ⟨rfl, rfl⟩
  · split at h
    all_goals
      cases h
      exact ⟨rfl, rfl⟩

/-- A read does not close a stream. -/
theorem isClosed_of_read {o : Option StreamEvent} (h : s.read = (o, s')) :
    s'.isClosed = s.isClosed := by
  rw [isClosed, isClosed, (eq_of_read h).2]

/-- Only a closed stream refuses to be read. -/
theorem isClosed_of_refusal (h : s.read = (none, s')) : s.isClosed = true := by
  unfold read at h
  split at h
  · assumption
  · split at h
    all_goals cases h

end ByteStream

namespace ByteSource

variable {s : ByteSource} {path : Option SourcePath} {e : Encoding} {all : List UInt8}

/-! ### Open streams -/

/-- What a read of the stream preserves is preserved by reading it for characters. -/
theorem stream_refill {P : ByteStream → Prop}
    (read : ∀ {t o t'}, ByteStream.read t = (o, t') → P t → P t') (h : P s.stream) :
    P s.refill.2.stream := by
  fun_induction refill s with
  | case1 s stream hread | case2 s x stream hread | case3 s stream hread hf
  | case4 s stream hread x hf | case6 s stream b hread c cs d hf
  | case7 s stream b hread x d hf => exact read hread h
  | case5 s stream b hread d hf ih => exact ih (read hread h)

theorem isClosed_refill (s : ByteSource) : s.refill.2.stream.isClosed = s.stream.isClosed :=
  stream_refill (P := fun t => t.isClosed = s.stream.isClosed)
    (fun hread h => (ByteStream.isClosed_of_read hread).trans h) rfl

theorem isClosed_read (s : ByteSource) : s.read.2.stream.isClosed = s.stream.isClosed :=
  read_invariant (P := fun t => t.stream.isClosed = s.stream.isClosed) id rfl s.isClosed_refill

/-- Only a closed stream is refused. -/
theorem isClosed_of_refill_closed {m : Medium} (h : s.refill.1 = .error (.closed m)) :
    s.stream.isClosed = true := by
  fun_induction refill s with
  | case1 s stream hread => exact ByteStream.isClosed_of_refusal hread
  | case2 s x stream hread => cases h
  | case3 s stream hread hf => cases h
  | case4 s stream hread x hf => cases x <;> cases h
  | case5 s stream b hread d hf ih => exact (ByteStream.isClosed_of_read hread).symm.trans (ih h)
  | case6 s stream b hread c cs d hf => cases h
  | case7 s stream b hread x d hf => cases x <;> cases h

theorem isClosed_of_closed {m : Medium} (h : s.read.1 = .error (.closed m)) :
    s.stream.isClosed = true := by
  unfold read at h
  split at h
  · cases h
  · split at h
    · cases h
    · cases h
    · next hs =>
      cases h
      exact isClosed_of_refill_closed (congrArg Prod.fst hs)

/-- **What keeps a character of an open stream from being read.** -/
theorem Within.error_of_read {r : ReadError} (h : s.Within path e all)
    (ho : s.stream.isClosed = false) (hr : s.read.1 = .error r) :
    (∃ x, r = .unreadable x) ∨ e = .utf16 ∨ e = .undefined := by
  have refused (x : Encoding.DecodeError) (hx : s.read.1 = .error (s.decodeError x)) :
      (∃ m, x = .malformed m) ∨ e = .utf16 ∨ e = .undefined := by
    rcases (undecodable_iff.2 hx).refuses.malformed_or h.reached with hm | ⟨-, he, -⟩ | ⟨-, he⟩
    · exact Or.inl hm
    · exact Or.inr (Or.inl he)
    · exact Or.inr (Or.inr he)
  cases r with
  | unreadable x => exact Or.inl ⟨x, rfl⟩
  | closed m =>
    rw [isClosed_of_closed hr] at ho
    cases ho
  | missingByteOrderMark =>
    rcases refused .missingByteOrderMark hr with ⟨m, hm⟩ | he
    · cases hm
    · exact Or.inr he
  | undefinedEncoding =>
    rcases refused .undefinedEncoding hr with ⟨m, hm⟩ | he
    · cases hm
    · exact Or.inr he

end ByteSource

/-- **A source over an open stream is read to its end, or up to a character that is lost**, in an
encoding that needs no byte order mark and is one. -/
theorem Source.unreadable_of_readAll {medium : Medium} {events : List StreamEvent}
    {path : Option SourcePath} {e : Encoding} {r : ReadError} (he : e ≠ .utf16)
    (hu : e ≠ .undefined)
    (h : (Source.bytes (.ofStream (.ofEvents medium events) path e)).readAll.1 = .error r) :
    ∃ x, r = .unreadable x := by
  let P (s : ByteSource) : Prop :=
    s.Within path e (ByteStream.ofEvents medium events).bytes ∧ s.stream.isClosed = false
  have hread {s : ByteSource} (hs : P s) : P s.read.2 := ⟨hs.1.read, s.isClosed_read.trans hs.2⟩
  obtain ⟨last, cs, hd, ⟨hok, -⟩ | ⟨r', hr, hl⟩⟩ := delivers_of_readAll
    (.bytes (.ofStream (.ofEvents medium events) path e))
  · rw [h] at hok
    cases hok
  · rw [h] at hr
    cases hr
    obtain ⟨last, rfl, hin, ho⟩ := hd.bytes (P := P) hread ⟨.ofStream _ path e, rfl⟩
    rcases hin.error_of_read ho hl with hx | hx | hx
    · exact hx
    · exact absurd hx he
    · exact absurd hx hu

end KayLexer
