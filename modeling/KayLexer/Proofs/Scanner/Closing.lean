import KayLexer.Proofs.Scanner.Spending

/-!
Scanners whose stream is closed. Between two tokens a scanner has one character in sight, and its
source has decoded no more of them, or one that continues the token which that character begins. So
a token is never given out without another read of the stream, which a closed stream refuses. Main
statement: what becomes of a scanner that is closed, in whatever state that finds it.
-/

namespace KayLexer

open Encoding (Decoder DecodeError)

/-! ### Two characters at once -/

namespace Encoding

variable {b : UInt8} {c : Char} {cs : List Char}

/-- No byte completes two characters but the last one of a pair. -/
theorem Decoder.mem_pairs_of_feed {d d' : Decoder} (h : d.feed b = (.ok (c :: cs), d')) :
    cs = [] ∨ ∃ a, ((a, b), c :: cs) ∈ Big5hkscs.pairs := by
  have hlen := Decoder.length_chars_feed h
  obtain ⟨mode, kept⟩ := d
  cases mode with
  | big5hkscs =>
    cases hr : Big5hkscs.read kept b with
    | chars ds =>
      rw [Mode.settled_big5hkscs.feed_chars hr] at h
      cases h
      rcases Big5hkscs.read_cases hr with ⟨c', hc⟩ | hpair
      · exact Or.inl (List.cons.inj hc).2
      · exact Or.inr hpair
    | incomplete =>
      rw [Mode.settled_big5hkscs.feed_incomplete hr] at h
      cases h
    | malformed m =>
      rw [Mode.settled_big5hkscs.feed_malformed hr] at h
      cases h
  | _ => exact Or.inl (List.length_eq_zero_iff.1 (Nat.le_zero.1 (Nat.le_of_succ_le_succ hlen)))

end Encoding

/-- The second character of a pair continues the token that the first one begins. -/
theorem extend_of_mem_pairs {a b : UInt8} {c d : Char} {cs : List Char}
    (h : ((a, b), c :: d :: cs) ∈ Encoding.Big5hkscs.pairs) :
    cs = [] ∧ ((Draft.opening c).extend d).isSome := by
  simp only [Encoding.Big5hkscs.pairs, List.mem_cons, Prod.mk.injEq, List.cons.injEq,
    List.not_mem_nil, or_false] at h
  rcases h with ⟨-, rfl, rfl, rfl⟩ | ⟨-, rfl, rfl, rfl⟩ | ⟨-, rfl, rfl, rfl⟩ | ⟨-, rfl, rfl, rfl⟩
  all_goals exact ⟨rfl, by decide⟩

/-! ### Streams and sources -/

theorem ByteStream.isClosed_close (s : ByteStream) : s.close.isClosed = true := by
  simp [close, isClosed]

namespace ByteSource

variable {s : ByteSource}

/-- What is decoded behind the character `c` continues the token that `c` begins, and is one
character at most. -/
def Follows (c : Char) (cs : List Char) : Prop :=
  cs = [] ∨ ∃ d, cs = [d] ∧ ((Draft.opening c).extend d).isSome

theorem follows_refill {c : Char} {cs : List Char} (h : s.refill.1 = .ok (c :: cs)) :
    Follows c cs := by
  fun_induction refill s with
  | case1 | case2 | case3 | case4 | case7 => cases h
  | case5 s b stream hread d hf ih => exact ih h
  | case6 s b stream hread a as d hf =>
    cases h
    rcases Decoder.mem_pairs_of_feed hf with hcs | ⟨a, hpair⟩
    · exact Or.inl hcs
    · cases cs with
      | nil => exact Or.inl rfl
      | cons x xs =>
        obtain ⟨rfl, hx⟩ := extend_of_mem_pairs hpair
        exact Or.inr ⟨x, rfl, hx⟩

/-- Behind a read of the stream, the character that is given is followed by what is decoded. -/
theorem follows_read {c : Char} (hp : s.pending = []) (h : s.read.1 = .ok (some c)) :
    Follows c s.read.2.pending := by
  obtain ⟨cs, s', hr, hs⟩ := exists_refill_of_read hp h
  rw [hs]
  exact s.follows_refill (congrArg Prod.fst hr)

/-- A read that gives no character decodes none. -/
theorem pending_read_of_ne (hp : s.pending = []) (h : ∀ c, s.read.1 ≠ .ok (some c)) :
    s.read.2.pending = [] := by
  rw [read_eq_refill hp h, pending_refill, hp]

/-- A read of a closed stream leaves all as it is. -/
theorem read_of_closed (hc : s.stream.isClosed = true) (hp : s.pending = []) :
    s.read = (.error (.closed s.stream.medium), s) := by
  have hread : s.stream.read = (none, s.stream) := by rw [ByteStream.read, if_pos hc]
  have hrefill : s.refill = (.error (.closed s.stream.medium), s) := by rw [refill_eq, hread]
  rw [read_nil hp, hrefill]

theorem medium_read (s : ByteSource) : s.read.2.stream.medium = s.stream.medium := by
  refine read_invariant (P := fun t => t.stream.medium = s.stream.medium) id rfl ?_
  refine stream_refill (P := fun t => t.medium = s.stream.medium) ?_ rfl
  intro t o t' hread ht
  exact (ByteStream.eq_of_read hread).1.trans ht

end ByteSource

namespace Scanner

variable {s : Scanner} {b : ByteSource} {d : Char}

/-! ### In front of the end -/

/-- The scanner reads on from the source, and has to read the stream before it has a token. -/
structure Awaits (s : Scanner) (b : ByteSource) : Prop where
  atEnd : s.atEnd = false
  source : s.source = some (.bytes b)
  follows : ∃ c, s.lookahead = some c ∧ ByteSource.Follows c b.pending

theorem awaits_ofSource (hp : b.pending = []) : (ofSource (.bytes b)).Awaits b :=
  ⟨rfl, rfl, ' ', rfl, Or.inl hp⟩

theorem Awaits.current {c : Char} (h : s.Awaits b) (hc : s.lookahead = some c) :
    s.current = some c := by
  rw [Scanner.current, h.atEnd, hc]
  rfl

theorem Awaits.close (h : s.Awaits b) : s.close.Awaits b.close := by
  refine ⟨h.atEnd, ?_, h.follows⟩
  rw [Scanner.close, h.source]
  rfl

/-- A step to the character that is decoded already. -/
theorem Awaits.advance_pending (h : s.Awaits b) (hp : b.pending = [d]) : ∃ s',
    s.advance = (.ok (), s') ∧ s'.lookahead = some d ∧ s'.Awaits (b.deliver d []) ∧
      s'.log = s.log := by
  have hread : (Source.bytes b).read = (.ok (some d), .bytes (b.deliver d [])) := by
    rw [Source.read, ByteSource.read, hp]
  simp only [advance, h.atEnd, h.source, hread]
  exact ⟨_, rfl, rfl, ⟨rfl, rfl, d, rfl, Or.inl rfl⟩, rfl⟩

/-- A step that reads the stream leaves the scanner in front of the next such step, if it is not at
its end then. -/
theorem Awaits.advance (h : s.Awaits b) (he : s.advance.2.atEnd = false) :
    s.advance.2.Awaits b.read.2 := by
  obtain ⟨c, hc, hp | ⟨d, hp, hd⟩⟩ := h.follows
  · simp only [Scanner.advance, h.atEnd, h.source, Source.read] at he ⊢
    split at he
    · next a hr =>
      exact ⟨rfl, rfl, a, rfl, ByteSource.follows_read hp hr⟩
    · cases he
    · cases he
    · next e hx hr =>
      have hpending := ByteSource.pending_read_of_ne hp (by simp [hr])
      exact ⟨rfl, rfl, c, hc, Or.inl hpending⟩
  · obtain ⟨s', ha, -, hs', -⟩ := h.advance_pending hp
    rw [ha, ByteSource.read, hp]
    exact hs'

/-- Behind the closing of the stream a step that needs it does nothing. -/
theorem Awaits.advance_closed (h : s.Awaits b) (hc : b.stream.isClosed = true)
    (hp : b.pending = []) : s.advance = (.error (.closed b.stream.medium), s) := by
  have hread : (Source.bytes b).read = (.error (.closed b.stream.medium), .bytes b) := by
    rw [Source.read, b.read_of_closed hc hp]
  obtain ⟨source, openError, atEnd, lookahead, position, log⟩ := s
  obtain rfl : atEnd = false := h.atEnd
  obtain rfl : source = some (.bytes b) := h.source
  simp only [Scanner.advance, hread]

/-! ### Behind the closing -/

/-- The scanner is not at its end, and its stream is closed. -/
structure Shut (medium : Medium) (reads : Nat) (log : List LogRecord) (s : Scanner) : Prop where
  awaits : ∃ b : ByteSource, s.Awaits b ∧ b.stream.isClosed = true ∧ b.stream.medium = medium ∧
    b.stream.reads = reads
  log : s.log = log

variable {medium : Medium} {reads : Nat} {log : List LogRecord}

theorem Shut.advance (h : s.Shut medium reads log) : s.advance.2.Shut medium reads log := by
  obtain ⟨⟨b, hb, hc, hm, hr⟩, hl⟩ := h
  obtain ⟨-, -, hp | ⟨d, hp, -⟩⟩ := hb.follows
  · rw [hb.advance_closed hc hp]
    exact ⟨⟨b, hb, hc, hm, hr⟩, hl⟩
  · obtain ⟨s', ha, -, hs', hlog⟩ := hb.advance_pending hp
    rw [ha]
    exact ⟨⟨b.deliver d [], hs', hc, hm, hr⟩, hlog.trans hl⟩

theorem Shut.close (h : s.Shut medium reads log) : s.close.Shut medium reads log := by
  obtain ⟨⟨b, hb, -, hm, hr⟩, hl⟩ := h
  exact ⟨⟨b.close, hb.close, b.stream.isClosed_close, hm, hr⟩, hl⟩

/-- **A scanner whose stream is closed gives no token.** -/
theorem Shut.nextToken (h : s.Shut medium reads log) : ∃ s',
    s.nextToken = (.error (.closed medium), s') ∧ s'.Shut medium reads log := by
  have hbehind : s.nextToken.2.Shut medium reads log :=
    s.call_nextToken.invariant (fun _ ht => ht.advance) h
  suffices herror : s.nextToken.1 = .error (.closed medium) from
    ⟨s.nextToken.2, Prod.ext herror rfl, hbehind⟩
  obtain ⟨⟨b, hb, hc, rfl, hr⟩, hl⟩ := h
  obtain ⟨c, hlook, hp | ⟨d, hp, hd⟩⟩ := hb.follows
  · rw [Scanner.nextToken, scan_error (hb.current hlook) rfl (hb.advance_closed hc hp)]
  · -- the token that the lookahead begins takes the pending character, and needs another one
    obtain ⟨s', ha, hlook', hs', -⟩ := hb.advance_pending hp
    obtain ⟨d', hd'⟩ := Option.isSome_iff_exists.1 hd
    rw [Scanner.nextToken, scan_step (hb.current hlook) rfl ha,
      scan_error (hs'.current hlook') hd' (hs'.advance_closed hc rfl)]
    rfl

end Scanner

namespace Session

open Scanner (Awaits Shut)

/-- Whatever the steps were, if nobody else has read the source: a scanner in front of its end has
to read the stream before it has a token. -/
theorem awaits_after (stream : ByteStream) (path : Option SourcePath) (e : Encoding)
    {xs : List SessionStep} (hxs : .readChar ∉ xs) :
    let s := ((onStream stream path e).after xs).scanner
    ∃ b : ByteSource, s.source = some (.bytes b) ∧ b.stream.medium = stream.medium ∧
      (s.atEnd = false → s.Awaits b) := by
  refine after_unshared (P := fun s => ∃ b : ByteSource, s.source = some (.bytes b) ∧
    b.stream.medium = stream.medium ∧ (s.atEnd = false → s.Awaits b)) ?_ ?_ hxs ?_
  · rintro t c hc ⟨b, hs, hm, hb⟩
    have he := Scanner.atEnd_of_current hc
    exact ⟨b.read.2, Scanner.source_advance he hs, b.medium_read.trans hm, (hb he).advance⟩
  · rintro t ⟨b, hs, hm, hb⟩
    refine ⟨b.close, ?_, hm, fun he => (hb he).close⟩
    rw [Scanner.close, hs]
    rfl
  · exact ⟨_, rfl, rfl, fun _ => Scanner.awaits_ofSource rfl⟩

/-- **A closed stream never yields another token.** A scanner that alone reads its source is closed,
after any steps and before any others. If it was at its end, it gives the end token, where it did.
If it was not, the next token is refused as the stream refuses to be read: nothing is recorded, the
stream is not read, and the scanner is not at its end. -/
theorem nextToken_closed (stream : ByteStream) (path : Option SourcePath) (e : Encoding)
    {xs ys : List SessionStep} (hxs : .readChar ∉ xs) (hys : .readChar ∉ ys) :
    let s := (onStream stream path e).after xs
    let t := (s.after (.close :: ys)).scanner
    (s.scanner.atEnd = false → ∃ t', t.nextToken = (.error (.closed stream.medium), t') ∧
      t'.atEnd = false ∧ t'.log = s.scanner.log ∧ t'.streamReads? = s.scanner.streamReads?) ∧
    (s.scanner.atEnd = true →
      t.nextToken = (.ok (.endOfFile s.scanner.position), t)) := by
  intro s t
  constructor
  · intro he
    obtain ⟨b, hs, hm, hb⟩ := awaits_after stream path e hxs
    have hclose : s.scanner.close.Shut stream.medium b.stream.reads s.scanner.log :=
      ⟨⟨b.close, (hb he).close, b.stream.isClosed_close, hm, rfl⟩, rfl⟩
    have ht : t.Shut stream.medium b.stream.reads s.scanner.log :=
      after_unshared (s := (s.step .close).2) (fun _ h => h.advance) (fun h => h.close) hys hclose
    obtain ⟨t', hn, ⟨b', hb', -, -, hr⟩, hl⟩ := ht.nextToken
    refine ⟨t', hn, hb'.atEnd, hl, ?_⟩
    rw [Scanner.streamReads?_of_bytes hb'.source, Scanner.streamReads?_of_bytes hs, hr]
  · intro he
    have ht : Rests s.scanner.position s.scanner.log t :=
      after_invariant Effect.rests ⟨he, rfl, rfl⟩ (.close :: ys)
    rw [Scanner.nextToken_of_atEnd ht.atEnd, ht.position]

/-- The stream is closed behind a word, where the first character of a pair is in sight and the
second one is decoded. -/
theorem nextToken_closed_pair :
    let stream := ByteStream.ofFile [0x61, 0x88, 0x62, 0x62]
    let s := (onStream stream none .big5hkscs).after [.next]
    (∃ b, s.scanner.source = some (.bytes b) ∧ b.pending = ['\u0304']) ∧
      .readChar ∉ [SessionStep.next] ∧ .readChar ∉ [SessionStep.tokenize] ∧
      s.scanner.atEnd = false ∧
      ∃ t', (s.after [.close, .tokenize]).scanner.nextToken = (.error (.closed .file), t') ∧
        t'.atEnd = false ∧ t'.log = [] ∧ t'.streamReads? = some 3 := by
  intro stream s
  have hxs : .readChar ∉ [SessionStep.next] := by simp
  have hys : .readChar ∉ [SessionStep.tokenize] := by simp
  let b : ByteSource :=
    ⟨⟨.file, [.byte 0x62], 3, 0⟩, none, ⟨.big5hkscs, []⟩, ['\u0304'], ⟨1, 3⟩⟩
  have hs : s.scanner.source = some (.bytes b) := by with_unfolding_all rfl
  have he : s.scanner.atEnd = false := by with_unfolding_all rfl
  have hl : s.scanner.log = [] := by with_unfolding_all rfl
  have hr : s.scanner.streamReads? = some 3 := by with_unfolding_all rfl
  obtain ⟨hclosed, -⟩ := nextToken_closed stream none .big5hkscs hxs hys
  obtain ⟨t', hn, ht, hlog, hreads⟩ := hclosed he
  exact ⟨⟨b, hs, rfl⟩, hxs, hys, he, t', hn, ht, hlog.trans hl, hreads.trans hr⟩

end Session

end KayLexer
