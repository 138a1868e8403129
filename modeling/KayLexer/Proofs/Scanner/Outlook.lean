import KayLexer.Proofs.Scanner.Passing
import KayLexer.Proofs.Source.Delivery

/-!
What a scanner has ahead of it. A scanner that alone uses its source sees a text: the lookahead,
and behind it all that the source still gives before its input ends, be it by nothing more to read
or by a character that cannot be read. Main statement: the tokens that come of the text are those
that the text falls into.
-/

namespace KayLexer

/-- How the input of a scanner ends: the source whose next read ends it, the failure of that read
if it is one, and the log up to then. -/
structure Ending where
  last : Source
  failure : Option Unreadable
  log : List LogRecord
  read_last : last.read.1 = failure.elim (.ok none) (.error ∘ .unreadable)

namespace Ending

/-- What becomes of the step that meets the end. -/
def outcome (e : Ending) : Except ReadError Unit := e.failure.elim (.ok ()) (.error ∘ .unreadable)

/-- What is recorded of the end at a position. -/
def record (e : Ending) (p : Position) : LogRecord :=
  match e.failure with
  | none => ⟨.debug, .scanner, Scanner.endMessage p⟩
  | some x => ⟨.error, .scanner, Scanner.stopMessage x⟩

end Ending

namespace Scanner

variable {s : Scanner} {e : Ending} {p : Position}

/-- The scanner sees a text whose first character stands at `p`, and behind it the end `e`. -/
def Sees (s : Scanner) (e : Ending) (p : Position) : List Char → Prop
  | [] => s.atEnd = true ∧ s.position = p ∧ s.source = some e.last.read.2 ∧
      s.log = e.log ++ [e.record p]
  | c :: cs => s.atEnd = false ∧ s.lookahead = some c ∧ s.position = p ∧ s.log = e.log ∧
      ∃ source, s.source = some source ∧ source.position = p.after c ∧
        source.Delivers e.last cs

theorem Sees.current {cs : List Char} (h : s.Sees e p cs) : s.current = cs.head? := by
  cases cs with
  | nil => exact current_of_atEnd h.1
  | cons c cs =>
    obtain ⟨ha, hl, -⟩ := h
    simp [Scanner.current, ha, hl]

theorem Sees.position {cs : List Char} (h : s.Sees e p cs) : s.position = p := by
  cases cs with
  | nil => exact h.2.1
  | cons c cs => exact h.2.2.1

/-! ### Steps towards the end -/

/-- A step of a scanner whose source has a text to give, and then the end. -/
theorem advance_of_delivers {source : Source} {cs : List Char} (ha : s.atEnd = false)
    (hs : s.source = some source) (hl : s.log = e.log) (hd : source.Delivers e.last cs) :
    ∃ s', s.advance = (if cs = [] then e.outcome else .ok (), s') ∧
      s'.Sees e source.position cs := by
  cases cs with
  | nil =>
    cases hd
    have hr := e.read_last
    simp only [advance, ha, hs]
    cases hf : e.failure with
    | none =>
      rw [hf] at hr
      simp only [Option.elim] at hr
      simp only [hr, Ending.outcome, hf, Option.elim]
      exact ⟨_, rfl, rfl, rfl, rfl, by simp [stop, record, hl, Ending.record, hf]⟩
    | some x =>
      rw [hf] at hr
      simp only [Option.elim, Function.comp] at hr
      simp only [hr, Ending.outcome, hf, Option.elim, Function.comp]
      exact ⟨_, rfl, rfl, rfl, rfl, by simp [stop, record, hl, Ending.record, hf]⟩
  | cons c cs =>
    simp only [advance, ha, hs, hd.1]
    exact ⟨_, rfl, rfl, rfl, rfl, hl, _, rfl, Source.position_read hd.1, hd.2⟩

/-- A step of a scanner whose source has a text to give, and then nothing. -/
theorem advance_of_exhausted {source last : Source} {cs : List Char} (ha : s.atEnd = false)
    (hs : s.source = some source) (hd : source.Delivers last cs) (hl : last.read.1 = .ok none) :
    ∃ (e : Ending) (s' : Scanner), s.advance = (.ok (), s') ∧ s'.Sees e source.position cs ∧
      e.failure = none ∧ e.last = last := by
  let e : Ending := ⟨last, none, s.log, hl⟩
  obtain ⟨s', hs', h'⟩ := advance_of_delivers (e := e) ha hs rfl hd
  have hok : (if cs = [] then e.outcome else .ok ()) = .ok () := ite_self _
  rw [hok] at hs'
  exact ⟨e, s', hs', h', rfl, rfl⟩

/-- A step takes one character off the front of the text that is seen. -/
theorem Sees.advance {c : Char} {cs : List Char} (h : s.Sees e p (c :: cs)) :
    ∃ s', s.advance = (if cs = [] then e.outcome else .ok (), s') ∧ s'.Sees e (p.after c) cs := by
  obtain ⟨ha, -, -, hl, source, hs, hp, hd⟩ := h
  rw [← hp]
  exact advance_of_delivers ha hs hl hd

/-- A scanner passes over what it sees, except that it does not come behind the last character
where it has a failure before it. -/
theorem Sees.passes {u rest : List Char} (h : s.Sees e p (u ++ rest))
    (he : rest ≠ [] ∨ e.failure = none) :
    ∃ s', Passes s u s' ∧ s'.Sees e (p.afterText u) rest := by
  induction u generalizing s p with
  | nil => exact ⟨s, .refl s, h⟩
  | cons c u ih =>
    rw [List.cons_append] at h
    obtain ⟨s₁, ha, h₁⟩ := h.advance
    have hok : (if u ++ rest = [] then e.outcome else .ok ()) = .ok () := by
      split
      · next hn =>
        rcases he with he | he
        · exact absurd (List.append_eq_nil_iff.1 hn).2 he
        · simp [Ending.outcome, he]
      · rfl
    rw [hok] at ha
    obtain ⟨s', hp, h'⟩ := ih h₁
    exact ⟨s', .step h.current ha hp, h'⟩

/-! ### Tokens of what is seen -/

/-- At the end of the input there is only the end token, and nothing happens any more. -/
theorem Sees.nextToken_nil (h : s.Sees e p []) : s.nextToken = (.ok (.endOfFile p), s) := by
  rw [nextToken_of_atEnd h.1, h.position]

/-- The next token is the longest lexeme behind the gap. -/
theorem Sees.nextToken_lexeme {g u rest : List Char} {k : TokenKind}
    (h : s.Sees e p (g ++ (u ++ rest))) (hg : Gap g) (hl : Longest k u rest)
    (he : rest ≠ [] ∨ e.failure = none) :
    ∃ s', s.nextToken = (.ok ⟨k, String.ofList u, p.afterText g⟩, s') ∧
      s'.Sees e (p.afterText (g ++ u)) rest := by
  obtain ⟨m, hpg, hm⟩ := h.passes (Or.inl (by simp [hl.lexeme.ne_nil]))
  obtain ⟨s', hpu, hs'⟩ := hm.passes he
  refine ⟨s', ?_, by simpa using hs'⟩
  rw [nextToken_gap hg hpg, Scanner.nextToken_lexeme hl hpu hs'.current, hm.position]

/-- Where no lexeme is left before the end, the end token is next. -/
theorem Sees.nextToken_trail {g : List Char} (h : s.Sees e p g) (ht : Trail g)
    (he : e.failure = none) :
    ∃ s', s.nextToken = (.ok (.endOfFile (p.afterText g)), s') ∧
      s'.Sees e (p.afterText g) [] := by
  rw [← g.append_nil] at h
  obtain ⟨s', hp, hs'⟩ := h.passes (Or.inr he)
  refine ⟨s', ?_, hs'⟩
  rw [Scanner.nextToken_trail ht hp hs'.current, hs'.position]

/-- Where nothing that is seen finishes a token, the failure at the end is met. -/
theorem Sees.nextToken_failure {cs : List Char} {d : Draft} {x : Unreadable}
    (h : s.Sees e p cs) (hcs : cs ≠ []) (hd : Draft.gap.run cs = some d)
    (he : e.failure = some x) :
    ∃ s', s.nextToken = (.error (.unreadable x), s') ∧ s'.Sees e (p.afterText cs) [] := by
  obtain ⟨u, c, rfl⟩ : ∃ u c, cs = u ++ [c] := ⟨_, _, (List.dropLast_concat_getLast hcs).symm⟩
  rw [Draft.run_append] at hd
  obtain ⟨d₁, hd₁, hd⟩ := Option.bind_eq_some_iff.1 hd
  rw [Draft.run_cons] at hd
  obtain ⟨d₂, hd₂, -⟩ := Option.bind_eq_some_iff.1 hd
  obtain ⟨m, hp, hm⟩ := h.passes (Or.inl (List.cons_ne_nil c []))
  obtain ⟨s', ha, hs'⟩ := hm.advance
  rw [if_pos rfl, Ending.outcome, he] at ha
  obtain ⟨q, hq⟩ := scan_run hd₁ hp s.position
  refine ⟨s', ?_, by simpa using hs'⟩
  rw [nextToken, hq, scan_error hm.current hd₂ ha]

/-! ### All tokens -/

theorem tokenize_eq (s : Scanner) : s.tokenize =
    match s.nextToken with
    | (.error e, s') => (.error e, s')
    | (.ok t, s') =>
      if t.isEndOfFile then (.ok [t], s')
      else match s'.tokenize with
        | (.ok ts, s'') => (.ok (t :: ts), s'')
        | (.error e, s'') => (.error e, s'') := by
  rw [tokenize]
  split
  · next h => rw [h]
  · next h => rw [h]; rfl

/-- The tokens of two scanners are the same if the next ones are. -/
theorem tokenize_congr {s' : Scanner} (h : s.nextToken = s'.nextToken) :
    s.tokenize = s'.tokenize := by
  rw [tokenize_eq, tokenize_eq s', h]

/-- **All tokens of a text that is seen to its end are those that the text falls into.** -/
theorem Sees.tokenize {cs : List Char} {ts : List Token} (h : s.Sees e p cs)
    (hl : Lexed p cs ts) (he : e.failure = none) :
    ∃ s', s.tokenize = (.ok (ts ++ [.endOfFile (p.afterText cs)]), s') ∧
      s'.Sees e (p.afterText cs) [] := by
  induction hl generalizing s with
  | trail ht =>
    obtain ⟨s', hn, hs'⟩ := h.nextToken_trail ht he
    exact ⟨s', by rw [tokenize_eq, hn]; rfl, hs'⟩
  | @token p g u rest k ts hg hu hr ih =>
    obtain ⟨s₁, hn, h₁⟩ := h.nextToken_lexeme hg hu (Or.inr he)
    obtain ⟨s', ht, hs'⟩ := ih h₁
    have hk := hu.lexeme.not_isEndOfFile (String.ofList u) (p.afterText g)
    refine ⟨s', ?_, by simpa using hs'⟩
    rw [tokenize_eq, hn]
    simp only [hk, ht, Bool.false_eq_true, if_false]
    simp

/-! ### The beginning -/

/-- A new scanner steps over its blank to the first character of its source. -/
theorem advance_ofSource {source : Source} {cs : List Char} (hl : e.log = [])
    (hd : source.Delivers e.last cs) :
    ∃ s', (ofSource source).advance = (if cs = [] then e.outcome else .ok (), s') ∧
      s'.Sees e source.position cs :=
  advance_of_delivers rfl rfl hl.symm hd

theorem nextToken_ofSource {source : Source} {s' : Scanner}
    (h : (ofSource source).advance = (.ok (), s')) :
    (ofSource source).nextToken = s'.nextToken :=
  nextToken_gap (.blank (by decide) .nil) (.step rfl h (.refl s'))

/-- **The tokens of a text are those that it falls into**, also if the text is given from a position
on. -/
theorem tokenize_text {cs : List Char} {ts : List Token} (hl : Lexed p cs ts) (n : Nat) :
    (ofSource (.text ⟨cs, p, n⟩)).tokenize.1 = .ok (ts ++ [.endOfFile (p.afterText cs)]) := by
  obtain ⟨last, hd, hr⟩ := Source.delivers_text ⟨cs, p, n⟩
  obtain ⟨e, s, ha, hs, he, -⟩ := advance_of_exhausted (s := ofSource _) rfl rfl hd hr.read
  obtain ⟨s', ht, -⟩ := hs.tokenize hl he
  exact congrArg Prod.fst ((tokenize_congr (nextToken_ofSource ha)).trans ht)

theorem tokenize_ofString {text : String} {ts : List Token}
    (hl : Lexed .start text.toList ts) :
    (ofString text).tokenize.1 =
      .ok (ts ++ [.endOfFile (Position.start.afterText text.toList)]) :=
  tokenize_text hl 0

end Scanner

end KayLexer
