import KayLexer.Proofs.Scanner.Failure
import KayLexer.Proofs.Source.Reading

/-!
Scanning all of a source. A new scanner comes through its source where the source can be read to its
end, and stops where a character is lost. Main statement: all tokens are those of the text that the
source gives, and a failure of the source is one of the scanner, whatever it has scanned before.
-/

namespace KayLexer.Scanner

open Position (start)

/-- The scanner has not taken a step yet, and has the source. -/
structure Fresh (s : Scanner) (source : Source) : Prop where
  atEnd : s.atEnd = false
  lookahead : s.lookahead = some ' '
  source : s.source = some source

variable {s s' : Scanner} {source last : Source} {cs : List Char} {x : Unreadable}

theorem fresh_ofSource (source : Source) : (ofSource source).Fresh source := ⟨rfl, rfl, rfl⟩

theorem Fresh.record (h : s.Fresh source) (severity : Severity) (message : String) :
    (s.record severity message).Fresh source :=
  ⟨h.atEnd, h.lookahead, h.source⟩

theorem Fresh.current (h : s.Fresh source) : s.current = some ' ' := by
  rw [Scanner.current, h.atEnd, h.lookahead]
  rfl

/-- A new scanner goes on as the one behind its first step. -/
theorem Fresh.nextToken (h : s.Fresh source) (ha : s.advance = (.ok (), s')) :
    s.nextToken = s'.nextToken :=
  nextToken_gap (.blank (by decide) .nil) (.step h.current ha (.refl s'))

/-- **All tokens of a source that gives a text and then nothing are those of the text.** -/
theorem Fresh.tokenize_of_delivers (h : s.Fresh source) (hp : source.position = start)
    (hd : source.Delivers last cs) (hl : last.read.1 = .ok none) :
    s.tokenize.1 = (ofString (String.ofList cs)).tokenize.1 := by
  obtain ⟨ts, hts⟩ := exists_lexed start cs
  obtain ⟨e, s₁, ha, h₁, he, -⟩ := advance_of_exhausted h.atEnd h.source hd hl
  rw [hp] at h₁
  obtain ⟨s₂, ht, -⟩ := h₁.tokenize hts he
  have hlist : (String.ofList cs).toList = cs := String.toList_ofList
  rw [tokenize_congr (h.nextToken ha), ht, tokenize_ofString (hlist.symm ▸ hts), hlist]

/-- Tokens before an error are lost with it. -/
theorem tokenize_of_nexts {ts : List Token} {r : ReadError}
    (hts : ∀ t ∈ ts, t.isEndOfFile = false)
    (h : (s.nexts (ts.length + 1)).1 = ts.map .ok ++ [.error r]) : s.tokenize.1 = .error r := by
  induction ts generalizing s with
  | nil =>
    have hn : s.nextToken = (.error r, s.nextToken.2) := Prod.ext (List.cons.inj h).1 rfl
    rw [tokenize_eq, hn]
  | cons t ts ih =>
    obtain ⟨ht, hts⟩ := List.forall_mem_cons.1 hts
    have hn : s.nextToken = (.ok t, s.nextToken.2) := Prod.ext (List.cons.inj h).1 rfl
    have hrest := ih hts (List.cons.inj h).2
    rw [tokenize_eq, hn]
    simp only [ht]
    generalize s.nextToken.2.tokenize = r' at hrest
    obtain ⟨_, s'⟩ := r'
    cases hrest
    rfl

/-- **Where a character of the source is lost, all tokens are.** -/
theorem Fresh.tokenize_of_failure (h : s.Fresh source) (hp : source.position = start)
    (hd : source.Delivers last cs) (hl : last.read.1 = .error (.unreadable x)) :
    s.tokenize.1 = .error (.unreadable x) := by
  let e : Ending := ⟨last, some x, s.log, hl⟩
  obtain ⟨s₁, ha, h₁⟩ := advance_of_delivers (e := e) h.atEnd h.source rfl hd
  rw [hp] at h₁
  by_cases hcs : cs = []
  · rw [if_pos hcs] at ha
    have hn : s.nextToken = (.error (.unreadable x), s₁) := scan_error h.current rfl ha
    rw [tokenize_eq, hn]
  · rw [if_neg hcs] at ha
    obtain ⟨ts, hts⟩ := exists_lexed start cs
    obtain ⟨-, s₂, -, hn⟩ := Sees.failsAfter (e := e) [] h₁ hcs hts rfl
    have hkept : ∀ t ∈ Token.followed ([] ++ cs) ts, t.isEndOfFile = false := by
      intro t ht
      exact hts.not_isEndOfFile t (List.mem_filter.1 ht).1
    rw [tokenize_congr (h.nextToken ha)]
    exact tokenize_of_nexts hkept (congrArg Prod.fst (hn 0))

end KayLexer.Scanner
