import KayLexer.Proofs.Scanner.Outlook
import KayLexer.Proofs.Source.Alike
import KayLexer.Proofs.Source.Encoded
import KayLexer.Scanner.Session

/-!
Scanners and sessions over sources that are alike. A scanner knows nothing of its source but what
reading gives, so that each of its steps leaves scanners alike that were alike before. Main
statement: a session over the bytes of a text goes as the one over the text, as long as neither is
closed.
-/

namespace KayLexer

namespace Scanner

/-- The scanners differ in nothing but their sources, which are alike. -/
def Alike (s s' : Scanner) : Prop := ∃ source source' : Source, source.Alike source' ∧
  s.source = some source ∧ s' = { s with source := some source' }

/-- The results are the same, and the scanners behind them are alike. -/
def Matches {α : Type} (r r' : α × Scanner) : Prop := r.1 = r'.1 ∧ r.2.Alike r'.2

variable {s s' : Scanner}

theorem alike_ofSource {source source' : Source} (h : source.Alike source') :
    (ofSource source).Alike (ofSource source') :=
  ⟨source, source', h, rfl, by rw [ofSource, ofSource, h.1]⟩

theorem Alike.current (h : s.Alike s') : s'.current = s.current := by
  obtain ⟨source, source', -, -, rfl⟩ := h
  rfl

theorem Alike.position (h : s.Alike s') : s'.position = s.position := by
  obtain ⟨source, source', -, -, rfl⟩ := h
  rfl

theorem Alike.atEnd (h : s.Alike s') : s'.atEnd = s.atEnd := by
  obtain ⟨source, source', -, -, rfl⟩ := h
  rfl

theorem Alike.log (h : s.Alike s') : s'.log = s.log := by
  obtain ⟨source, source', -, -, rfl⟩ := h
  rfl

theorem Alike.openError (h : s.Alike s') : s'.openError = s.openError := by
  obtain ⟨source, source', -, -, rfl⟩ := h
  rfl

theorem Matches.eq_mk {α : Type} {r r' : α × Scanner} {a : α} (h : Matches r r')
    (hr : r = (a, s)) : ∃ s', r' = (a, s') ∧ s.Alike s' := by
  subst hr
  exact ⟨r'.2, Prod.ext h.1.symm rfl, h.2⟩

/-! ### Steps of a scanner -/

theorem Alike.readSource (h : s.Alike s') : Matches s.readSource s'.readSource := by
  obtain ⟨source, source', ha, hs, rfl⟩ := h
  obtain ⟨hr, hn⟩ := ha.read
  simp only [Scanner.readSource, hs]
  exact ⟨hr, _, _, hn, rfl, rfl⟩

theorem Alike.advance (h : s.Alike s') : Matches s.advance s'.advance := by
  obtain ⟨source, source', ha, hs, rfl⟩ := h
  obtain ⟨hr, hn⟩ := ha.read
  cases he : s.atEnd with
  | true =>
    simp only [Scanner.advance, he]
    exact ⟨rfl, source, source', ha, hs, rfl⟩
  | false =>
    simp only [Scanner.advance, he, hs, ← hr, ← ha.1]
    split
    all_goals exact ⟨rfl, _, _, hn, rfl, rfl⟩

theorem Alike.scan (h : s.Alike s') (d : Draft) (p : Position) :
    Matches (s.scan d p) (s'.scan d p) := by
  fun_induction Scanner.scan d p s generalizing s' with
  | case1 d p s hd =>
    rw [scan_stop (by rw [h.current]; exact hd), h.position]
    exact ⟨rfl, h⟩
  | case2 d p s d' hd s₁ hs ih =>
    obtain ⟨c, hc, he⟩ := Option.bind_eq_some_iff.1 hd
    obtain ⟨s₁', hs', h₁⟩ := h.advance.eq_mk hs
    rw [scan_step (h.current.trans hc) he hs', h.position]
    exact ih h₁
  | case3 d p s d' hd e s₁ hs =>
    obtain ⟨c, hc, he⟩ := Option.bind_eq_some_iff.1 hd
    obtain ⟨s₁', hs', h₁⟩ := h.advance.eq_mk hs
    rw [scan_error (h.current.trans hc) he hs']
    exact ⟨rfl, h₁⟩

theorem Alike.nextToken (h : s.Alike s') : Matches s.nextToken s'.nextToken := by
  rw [Scanner.nextToken, Scanner.nextToken, h.position]
  exact h.scan _ _

theorem Alike.tokenize (h : s.Alike s') : Matches s.tokenize s'.tokenize := by
  fun_induction Scanner.tokenize s generalizing s' with
  | case1 s e s₁ hn =>
    obtain ⟨s₁', hn', h₁⟩ := h.nextToken.eq_mk hn
    rw [tokenize_eq s', hn']
    exact ⟨rfl, h₁⟩
  | case2 s t s₁ hn ht =>
    obtain ⟨s₁', hn', h₁⟩ := h.nextToken.eq_mk hn
    rw [tokenize_eq s', hn']
    simp only [ht, if_true]
    exact ⟨rfl, h₁⟩
  | case3 s t s₁ hn ht r s₂ hts ih | case4 s t s₁ hn ht r s₂ hts ih =>
    obtain ⟨s₁', hn', h₁⟩ := h.nextToken.eq_mk hn
    obtain ⟨s₂', hts', h₂⟩ := (ih h₁).eq_mk hts
    rw [tokenize_eq s', hn']
    simp only [ht, hts']
    exact ⟨rfl, h₂⟩

end Scanner

/-- Whether the step closes the source. -/
def SessionStep.closes : SessionStep → Bool
  | .close | .closingNext => true
  | _ => false

namespace Session

/-- What the steps give one after the other, each with what it leaves to be seen of the scanner:
whether the end of the input is reached, and the log. -/
def run (s : Session) : List SessionStep →
    List (Except ReadError SessionAnswer × Bool × List LogRecord)
  | [] => []
  | x :: xs => ((s.step x).1, (s.step x).2.scanner.atEnd, (s.step x).2.scanner.log) ::
      (s.step x).2.run xs

/-- The sessions have the same iterations, and their scanners are alike. -/
structure Alike (s s' : Session) : Prop where
  scanner : s.scanner.Alike s'.scanner
  iterations : s'.iterations = s.iterations

/-- The results are the same, and the sessions behind them are alike. -/
def Matches {α : Type} (r r' : α × Session) : Prop := r.1 = r'.1 ∧ r.2.Alike r'.2

variable {s s' : Session}

theorem alike_ofScanner {t t' : Scanner} (h : t.Alike t') : (ofScanner t).Alike (ofScanner t') :=
  ⟨h, rfl⟩

theorem Alike.answer {α : Type} {r r' : Except ReadError α × Scanner} (h : s.Alike s')
    (f : α → SessionAnswer) (hr : Scanner.Matches r r') : Matches (s.answer f r) (s'.answer f r') :=
  ⟨congrArg (Except.map f) hr.1, hr.2, h.iterations⟩

theorem Alike.resume (h : s.Alike s') (index : Nat) :
    Matches (s.resume index) (s'.resume index) := by
  have hi := h.iterations
  rw [Session.resume, Session.resume, hi]
  split
  · cases hn : s.scanner.nextToken with
    | mk r scanner =>
      obtain ⟨scanner', hn', hs⟩ := h.scanner.nextToken.eq_mk hn
      rw [hn']
      cases r with
      | ok t =>
        dsimp only
        split
        all_goals exact ⟨rfl, hs, rfl⟩
      | error e => exact ⟨rfl, hs, rfl⟩
  · exact ⟨rfl, h⟩

/-- **A step that does not close does not tell the sessions apart.** -/
theorem Alike.step (h : s.Alike s') {x : SessionStep} (hx : x.closes = false) :
    Matches (s.step x) (s'.step x) := by
  have ht := h.scanner.tokenize
  cases x with
  | next => exact h.answer .token h.scanner.nextToken
  | tokenize => exact h.answer .tokens ht
  | list => exact h.answer .tokens ⟨congrArg (Except.map List.dropLast) ht.1, ht.2⟩
  | iterate => exact ⟨rfl, h.scanner, congrArg (· ++ [Iteration.running]) h.iterations⟩
  | resume index => exact h.resume index
  | readChar => exact h.answer .char h.scanner.readSource
  | openError =>
    refine ⟨?_, h⟩
    rw [Session.step, Session.step, h.scanner.openError]
  | close | closingNext => cases hx
  | print => exact h.answer .output ⟨congrArg (Except.map Token.renderLines) ht.1, ht.2⟩

/-- **Sessions that are alike go alike, as long as neither is closed.** -/
theorem Alike.run (h : s.Alike s') {xs : List SessionStep} (hxs : ∀ x ∈ xs, x.closes = false) :
    s.run xs = s'.run xs := by
  induction xs generalizing s s' with
  | nil => rfl
  | cons x xs ih =>
    obtain ⟨hx, hxs⟩ := List.forall_mem_cons.1 hxs
    obtain ⟨hr, hs⟩ := h.step hx
    rw [Session.run, Session.run, hr, hs.scanner.atEnd, hs.scanner.log, ih hs hxs]

/-! ### Bytes and texts -/

open Encoding (Encodes)

/-- **The bytes of a text are as good as the text.** A source over a stream that gives the bytes
one at a time and then nothing is read as the source over the text is, also behind the end, and
sessions over the two sources go alike as long as neither is closed. -/
theorem run_encoded {e : Encoding} {text : String} {bytes : List UInt8}
    (h : Encodes e text.toList bytes) (medium : Medium) (path : Option SourcePath) :
    (Source.ofBytes medium bytes path e).position = (Source.ofString text).position ∧
    (∀ n, (Source.ofBytes medium bytes path e).reads n = (Source.ofString text).reads n) ∧
    ∀ xs : List SessionStep, (∀ x ∈ xs, x.closes = false) →
      (ofScanner (.ofSource (.ofBytes medium bytes path e))).run xs =
        (ofScanner (.ofString text)).run xs := by
  obtain ⟨last, hd, hl⟩ := Source.delivers_ofBytes h medium path
  obtain ⟨last', hd', hl'⟩ := Source.delivers_text (.ofString text)
  have ha : (Source.ofBytes medium bytes path e).Alike (.ofString text) := hd.alike hd' hl hl' rfl
  refine ⟨ha.1, ha.2, ?_⟩
  intro xs hxs
  have hs := alike_ofScanner (Scanner.alike_ofSource ha)
  exact hs.run hxs

/-- A character of two surrogates, in big-endian order behind the mark of it. -/
theorem run_encoded_surrogates :
    Encodes .utf16 "x😀".toList [0xfe, 0xff, 0x00, 0x78, 0xd8, 0x3d, 0xde, 0x00] ∧
    (ofScanner (.ofSource (.ofBytes .file [0xfe, 0xff, 0x00, 0x78, 0xd8, 0x3d, 0xde, 0x00] none
      .utf16))).run [.next, .resume 0, .readChar, .list, .print] =
        (ofScanner (.ofString "x😀")).run [.next, .resume 0, .readChar, .list, .print] := by
  have h : Encodes .utf16 "x😀".toList [0xfe, 0xff, 0x00, 0x78, 0xd8, 0x3d, 0xde, 0x00] :=
    .utf16 .bigEndian "x😀".toList
  exact ⟨h, (run_encoded h .file none).2.2 _ (by decide)⟩

end Session

end KayLexer
