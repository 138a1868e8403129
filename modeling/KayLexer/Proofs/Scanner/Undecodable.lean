import KayLexer.Proofs.Scanner.Failure
import KayLexer.Proofs.Scanner.Lifetime
import KayLexer.Proofs.Source.Undecodable

/-!
Scanning bytes that cannot be decoded. Bytes without a meaning stop the scanner for good, at the
character that was lost to them. UTF-16 without a byte order mark, and an encoding in which nothing
can be read, are errors of the source as a whole, and the scanner reads on behind them. Main
statement: which of the two it is, for every stream and in whatever state the scanner is.
-/

namespace KayLexer

namespace Scanner

variable {α : Type} {s s' : Scanner} {source : Source}

/-- The scanner has stopped at a character that could not be read, has recorded that, and gives out
the end token from then on without doing anything. -/
structure StopsAt (s : Scanner) (x : Unreadable) (s' : Scanner) : Prop where
  atEnd : s'.atEnd = true
  log : s'.log = s.log ++ [⟨.error, .scanner, stopMessage x⟩]
  nexts : ∀ n, s'.nexts n = (List.replicate n (.ok (.endOfFile x.position)), s')

/-- **A call fails where its source does.** It stops the scanner where a character is lost, and
else the scanner reads on. -/
theorem Fate.of_error {r : ReadError}
    (h : Fate s source ((.error r, s') : Except ReadError α × Scanner)) :
    ∃ (last : Source) (cs : List Char), source.Delivers last cs ∧ last.read.1 = .error r ∧
      ((∃ x, r = .unreadable x ∧ s.StopsAt x s') ∨
        (∀ x, r ≠ .unreadable x) ∧ s.ReadsOn s') := by
  cases h with
  | @failed e x cs _ hd hf hl hsees =>
    have hr := e.read_last
    simp only [hf, Option.elim, Function.comp] at hr
    have hlog := hsees.2.2.2
    refine ⟨e.last, cs, hd, hr, Or.inl ⟨x, rfl, hsees.1, ?_, ?_⟩⟩
    · rw [hlog, hl, Ending.record, hf]
    · rw [Source.position_of_unreadable hr]
      exact hsees.nexts_nil
  | @interrupted last cs e _ hd hr hx hs he hl =>
    exact ⟨last, cs, hd, hr, Or.inr ⟨hx, he, hl, by simp [hs]⟩⟩

theorem source_advance (he : s.atEnd = false) (hs : s.source = some source) :
    s.advance.2.source = some source.read.2 := by
  simp only [advance, he, hs]
  split
  all_goals rfl

end Scanner

namespace Session

open Scanner (Fate ReadsOn StopsAt)

/-- What reads and closing preserve of a byte source is preserved by an effect. -/
theorem Effect.bytes {P : ByteSource → Prop} (read : ∀ {b}, P b → P b.read.2)
    (close : ∀ {b}, P b → P b.close) {t : Scanner} {r : Except ReadError SessionAnswer × Scanner}
    (h : Effect t r) (ht : ∃ b, t.source = some (.bytes b) ∧ P b) :
    ∃ b, r.2.source = some (.bytes b) ∧ P b := by
  refine h.invariant (P := fun t => ∃ b, t.source = some (.bytes b) ∧ P b) ?_ ?_ ?_ ht
  · rintro t c hc ⟨b, hs, hb⟩
    exact ⟨b.read.2, Scanner.source_advance (Scanner.atEnd_of_current hc) hs, read hb⟩
  · rintro t ⟨b, hs, hb⟩
    refine ⟨b.read.2, ?_, read hb⟩
    simp only [Scanner.readSource, hs]
    rfl
  · rintro t ⟨b, hs, hb⟩
    refine ⟨b.close, ?_, close hb⟩
    rw [Scanner.close, hs]
    rfl

/-- The session of a scanner of a byte stream. -/
def onStream (stream : ByteStream) (path : Option SourcePath) (e : Encoding) : Session :=
  onSource (some (.bytes (.ofStream stream path e))) none

theorem source_after (stream : ByteStream) (path : Option SourcePath) (e : Encoding)
    (xs : List SessionStep) : ∃ b, ((onStream stream path e).after xs).scanner.source =
      some (.bytes b) ∧ b.Within path e stream.bytes := by
  refine after_invariant (P := fun t => ∃ b, t.source = some (.bytes b) ∧
    b.Within path e stream.bytes) ?_ ⟨_, rfl, .ofStream stream path e⟩ xs
  intro t r h ht
  exact h.bytes (fun hb => hb.read) (fun hb => hb.close) ht

/-- **What happens where bytes cannot be decoded.** After any steps on any stream, a scanner that is
not at its end fails to give a token only because its source fails to give a character. If that is
because of the bytes, there are two cases. Bytes without a meaning stop the scanner for good, at the
position of the character that they should have been a part of. UTF-16 that does not begin with a
byte order mark, and the encoding in which nothing can be read, leave the scanner reading on. -/
theorem nextToken_undecodable (stream : ByteStream) (path : Option SourcePath) (e : Encoding)
    (xs : List SessionStep) {r : ReadError} {s' : Scanner} :
    let s := ((onStream stream path e).after xs).scanner
    s.atEnd = false → s.nextToken = (.error r, s') →
    ∃ (b last : ByteSource) (cs : List Char), s.source = some (.bytes b) ∧
      (Source.bytes b).Delivers (.bytes last) cs ∧ last.read.1 = .error r ∧
      ∀ x, last.Undecodable x →
        (∃ m, x = .malformed m ∧ r = .unreadable ⟨path, last.position, .malformed m⟩ ∧
          s.StopsAt ⟨path, last.position, .malformed m⟩ s') ∨
        (x = .missingByteOrderMark ∧ r = .missingByteOrderMark ∧ e = .utf16 ∧
            (∀ order : Encoding.ByteOrder, ¬ order.mark <+: stream.bytes) ∨
          x = .undefinedEncoding ∧ r = .undefinedEncoding ∧ e = .undefined) ∧
        s.ReadsOn s' := by
  intro s ha hn
  obtain ⟨b, hs, hb⟩ := source_after stream path e xs
  have hfate := s.call_nextToken.fate ha hs
  rw [hn] at hfate
  obtain ⟨last, cs, hd, hr, hafter⟩ := hfate.of_error
  obtain ⟨last, rfl, hlast⟩ := hd.bytes (fun hb => hb.read) hb
  refine ⟨b, last, cs, hs, hd, hr, ?_⟩
  intro x hx
  obtain rfl : r = last.decodeError x :=
    Except.error.inj (hr.symm.trans (ByteSource.undecodable_iff.1 hx))
  rcases hafter with ⟨y, hy, hstop⟩ | ⟨hno, hon⟩
  · -- a character is lost, which is so for bytes without a meaning only
    cases x with
    | malformed m =>
      cases hy
      rw [← hlast.path]
      exact Or.inl ⟨m, rfl, rfl, hstop⟩
    | missingByteOrderMark | undefinedEncoding => cases hy
  · refine Or.inr ⟨?_, hon⟩
    rcases hx.refuses.malformed_or hlast.reached with ⟨m, rfl⟩ | ⟨rfl, h⟩ | ⟨rfl, h⟩
    · exact absurd rfl (hno _)
    · exact Or.inl ⟨rfl, rfl, h⟩
    · exact Or.inr ⟨rfl, rfl, h⟩

/-- The end of the bytes in the middle of a character, behind a word and a space. -/
theorem nextToken_undecodable_unfinished :
    let s := ((onStream (.ofFile [0x6f, 0x6b, 0x20, 0xc3]) none .utf8).after [.next]).scanner
    let x : Unreadable := ⟨none, ⟨1, 4⟩, .malformed ⟨.utf8, 0xc3, [], .unexpectedEnd⟩⟩
    s.atEnd = false ∧ s.nextToken = (.error (.unreadable x), s.nextToken.2) ∧
      s.StopsAt x s.nextToken.2 := by
  intro s x
  have ha : s.atEnd = false := by with_unfolding_all rfl
  have hn : s.nextToken = (.error (.unreadable x), s.nextToken.2) :=
    Prod.ext (by with_unfolding_all rfl) rfl
  obtain ⟨b, last, cs, hs, hd, hr, h⟩ := nextToken_undecodable _ none .utf8 [.next] ha hn
  obtain ⟨b', hs', hb'⟩ := source_after (.ofFile [0x6f, 0x6b, 0x20, 0xc3]) none .utf8 [.next]
  obtain rfl : b' = b := Source.bytes.inj (Option.some.inj (hs'.symm.trans hs))
  obtain ⟨l, hl, hlast⟩ := hd.bytes (fun hb => hb.read) hb'
  obtain rfl : last = l := Source.bytes.inj hl
  have hx : last.Undecodable (.malformed ⟨.utf8, 0xc3, [], .unexpectedEnd⟩) := by
    rw [ByteSource.undecodable_iff, hr, ByteSource.decodeError, ByteSource.unreadable, hlast.path,
      ← ByteSource.position_of_unreadable hr]
  refine ⟨ha, hn, ?_⟩
  rcases h _ hx with ⟨m, hm, hxm, hstop⟩ | ⟨⟨hm, -⟩ | ⟨hm, -⟩, -⟩
  · cases hm
    rwa [← ByteSource.position_of_unreadable hr] at hstop
  · cases hm
  · cases hm

/-- Text in UTF-16 without a byte order mark cannot be decoded, and yet the scanner is not stopped
by it: nothing is recorded, and the next call reads the stream again. -/
theorem nextToken_unmarked :
    let source : ByteSource := .ofStream (.ofFile [0x61, 0x00, 0x62, 0x00]) none .utf16
    let s := Scanner.ofSource (.bytes source)
    source.Undecodable .missingByteOrderMark ∧ s.nextToken.1 = .error .missingByteOrderMark ∧
      s.nextToken.2.atEnd = false ∧ s.nextToken.2.log = [] ∧
      s.nextToken.2.nextToken.1 = .error .missingByteOrderMark := by
  refine ⟨⟨rfl, rfl, .later rfl (.byte rfl)⟩, ?_, ?_, ?_, ?_⟩
  all_goals with_unfolding_all rfl

end Session

end KayLexer
