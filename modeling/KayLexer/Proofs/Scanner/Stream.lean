import KayLexer.Proofs.Scanner.Failure

/-!
What a scanner still has to give. All that its users see of a scanner that never fails is a stream
of tokens that ends: each call takes the first token that is left, and behind the last one there is
the end token for ever. Main statement: the stream of a text is the list of its tokens.
-/

namespace KayLexer

open Position (start)

/-- Where no end token is, none is left out. -/
theorem filter_isEndOfFile {ts : List Token} (h : ∀ t ∈ ts, t.isEndOfFile = false) :
    ts.filter (fun t => !t.isEndOfFile) = ts := by
  rw [List.filter_eq_self]
  intro t ht
  rw [h t ht]
  rfl

theorem filter_endOfFile (p : Position) :
    [Token.endOfFile p].filter (fun t => !t.isEndOfFile) = [] := rfl

namespace Scanner

/-- Asked again and again, the scanner gives the tokens, and then the end token at `p`, with which
it comes to its end if it is not there already. -/
def Yields (s : Scanner) (p : Position) : List Token → Prop
  | [] => ∃ s', s.nextToken = (.ok (.endOfFile p), s') ∧ s'.atEnd = true ∧ s'.position = p
  | t :: ts => t.isEndOfFile = false ∧ ∃ s', s.nextToken = (.ok t, s') ∧ s'.Yields p ts

namespace Yields

variable {s s' : Scanner} {p : Position} {ts : List Token}

theorem nil_of_atEnd (ha : s.atEnd = true) (hp : s.position = p) : s.Yields p [] :=
  ⟨s, by rw [nextToken_of_atEnd ha, hp], ha, hp⟩

/-- At its end a scanner has nothing left. -/
theorem eq_nil (h : s.Yields p ts) (ha : s.atEnd = true) : ts = [] := by
  cases ts with
  | nil => rfl
  | cons t ts =>
    obtain ⟨ht, s', hn, -⟩ := h
    rw [nextToken_of_atEnd ha] at hn
    cases hn
    cases ht

/-- What is left depends on the next token. -/
theorem congr (hn : s.nextToken = s'.nextToken) (h : s'.Yields p ts) : s.Yields p ts := by
  cases ts with
  | nil =>
    obtain ⟨s₁, hs, h₁⟩ := h
    exact ⟨s₁, hn.trans hs, h₁⟩
  | cons t ts =>
    obtain ⟨ht, s₁, hs, h₁⟩ := h
    exact ⟨ht, s₁, hn.trans hs, h₁⟩

theorem not_isEndOfFile (h : s.Yields p ts) : ∀ t ∈ ts, t.isEndOfFile = false := by
  induction ts generalizing s with
  | nil => simp
  | cons t ts ih =>
    obtain ⟨ht, s', -, h'⟩ := h
    exact List.forall_mem_cons.2 ⟨ht, ih h'⟩

/-- **Each call takes the first of what is left.** -/
theorem nextToken (h : s.Yields p ts) : ∃ t s', s.nextToken = (.ok t, s') ∧ s'.Yields p ts.tail ∧
    t = ts.headD (.endOfFile p) ∧ (t.isEndOfFile = true → ts = [] ∧ s'.atEnd = true) := by
  cases ts with
  | nil =>
    obtain ⟨s', hn, ha, hp⟩ := h
    exact ⟨_, s', hn, nil_of_atEnd ha hp, rfl, fun _ => ⟨rfl, ha⟩⟩
  | cons t ts =>
    obtain ⟨ht, s', hn, h'⟩ := h
    exact ⟨t, s', hn, h', rfl, fun he => by rw [ht] at he; cases he⟩

/-- **All that is left is given at once, behind which the scanner is at its end.** -/
theorem tokenize (h : s.Yields p ts) : ∃ s',
    s.tokenize = (.ok (ts ++ [.endOfFile p]), s') ∧ s'.atEnd = true ∧ s'.position = p := by
  induction ts generalizing s with
  | nil =>
    obtain ⟨s', hn, h'⟩ := h
    refine ⟨s', ?_, h'⟩
    rw [tokenize_eq, hn]
    rfl
  | cons t ts ih =>
    obtain ⟨ht, s₁, hn, h₁⟩ := h
    obtain ⟨s', hs, h'⟩ := ih h₁
    refine ⟨s', ?_, h'⟩
    rw [tokenize_eq, hn]
    simp only [ht, hs]
    rfl

/-- After a number of calls there is left what they have not taken. -/
theorem after_nexts (h : s.Yields p ts) (n : Nat) : (s.nexts n).2.Yields p (ts.drop n) := by
  induction n generalizing s ts with
  | zero => exact h
  | succ n ih =>
    obtain ⟨t, s₁, hn, h₁, -⟩ := h.nextToken
    rw [nexts_succ hn, ← List.drop_tail]
    exact ih h₁

/-- **The first calls give the first tokens.** -/
theorem nexts (h : s.Yields p ts) {n : Nat} (hn : n ≤ ts.length) :
    (s.nexts n).1 = (ts.take n).map .ok := by
  induction n generalizing s ts with
  | zero => rfl
  | succ n ih =>
    cases ts with
    | nil => cases hn
    | cons t ts =>
      obtain ⟨-, s₁, hs₁, h₁⟩ := h
      rw [nexts_succ hs₁, ih h₁ (Nat.le_of_succ_le_succ hn)]
      rfl

/-- A token that a call gives is one of those that were left, behind as many as there were calls
before. -/
theorem split_of_nexts {t : Token} {n : Nat} (h : s.Yields p ts)
    (hn : (s.nexts n).2.nextToken = (.ok t, s')) (ht : t.isEndOfFile = false) :
    ∃ us rest, ts = us ++ t :: rest ∧ us.length = n := by
  obtain ⟨t', s₁, hn', -, hhead, hend⟩ := (h.after_nexts n).nextToken
  rw [hn] at hn'
  cases hn'
  cases hdrop : ts.drop n with
  | nil =>
    rw [hdrop] at hhead
    cases hhead
    cases ht
  | cons u us =>
    rw [hdrop] at hhead
    obtain rfl : t = u := hhead
    have hlt : n < ts.length := by
      apply Nat.lt_of_not_le
      intro hle
      rw [List.drop_eq_nil_of_le hle] at hdrop
      cases hdrop
    refine ⟨ts.take n, us, ?_, List.length_take_of_le (Nat.le_of_lt hlt)⟩
    rw [← hdrop, List.take_append_drop]

end Yields

/-! ### Streams of texts -/

variable {s : Scanner} {e : Ending} {p : Position}

theorem Sees.yields {cs : List Char} {ts : List Token} (h : s.Sees e p cs) (hl : Lexed p cs ts)
    (he : e.failure = none) : s.Yields (p.afterText cs) ts := by
  induction hl generalizing s with
  | trail ht =>
    obtain ⟨s', hn, hs'⟩ := h.nextToken_trail ht he
    exact ⟨s', hn, hs'.1, hs'.2.1⟩
  | @token p g u rest k ts hg hu _ ih =>
    obtain ⟨s', hn, hs'⟩ := h.nextToken_lexeme hg hu (Or.inr he)
    have hk := hu.lexeme.not_isEndOfFile (String.ofList u) (p.afterText g)
    exact ⟨hk, s', hn, by simpa using ih hs'⟩

/-- What a scanner that sees the rest of a text has left in its source: all but the lookahead. -/
theorem Sees.source_text {n : Nat} {rest : List Char} (h : s.Sees e p rest)
    (hl : e.last = .text ⟨[], p.afterText rest, n⟩) : ∃ m, m + rest.length = n + 1 ∧
      s.source = some (.text ⟨rest.tail, p.afterText (rest.take 1), m⟩) := by
  cases rest with
  | nil =>
    obtain ⟨-, -, hs, -⟩ := h
    rw [hl] at hs
    exact ⟨n + 1, rfl, hs⟩
  | cons c cs =>
    obtain ⟨-, -, -, -, source, hs, hp, hd⟩ := h
    rw [hl] at hd
    obtain ⟨m, hm, hsource⟩ := hd.eq_text
    rw [hsource, hp] at hs
    refine ⟨m, ?_, hs⟩
    rw [List.length_cons]
    omega

theorem Sees.atEnd_iff {rest : List Char} (h : s.Sees e p rest) :
    s.atEnd = true ↔ rest = [] := by
  cases rest with
  | nil => exact iff_of_true h.1 rfl
  | cons c cs => simp [h.1]

/-- A step of a scanner whose source has the rest of a text to give. -/
theorem advance_of_text {cs : List Char} {n : Nat} (ha : s.atEnd = false)
    (hs : s.source = some (.text ⟨cs, p, n⟩)) : ∃ (e : Ending) (s' : Scanner),
    s.advance = (.ok (), s') ∧ s'.Sees e p cs ∧ e.failure = none ∧
      e.last = .text ⟨[], p.afterText cs, n + cs.length⟩ :=
  advance_of_exhausted ha hs (Source.delivers_rest cs p n) rfl

/-- A new scanner of a text goes on as one that sees the text. -/
theorem exists_sees_ofString (text : String) : ∃ (e : Ending) (s : Scanner),
    (ofString text).nextToken = s.nextToken ∧ s.Sees e start text.toList ∧ e.failure = none ∧
      e.last = .text ⟨[], start.afterText text.toList, text.length⟩ := by
  obtain ⟨e, s, ha, hs, he, hl⟩ := advance_of_text (s := ofString text) rfl rfl
  rw [Nat.zero_add, String.length_toList] at hl
  exact ⟨e, s, nextToken_ofSource ha, hs, he, hl⟩

/-- **A new scanner of a text yields the tokens that the text falls into.** -/
theorem yields_ofString {text : String} {ts : List Token} (hl : Lexed start text.toList ts) :
    (ofString text).Yields (start.afterText text.toList) ts := by
  obtain ⟨e, s, hn, hs, he, -⟩ := exists_sees_ofString text
  exact .congr hn (hs.yields hl he)

end Scanner

end KayLexer
