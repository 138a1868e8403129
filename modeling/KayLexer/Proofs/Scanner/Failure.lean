import KayLexer.Proofs.Source.Encoded
import KayLexer.Proofs.Tokenization

/-!
Scanning a source that fails. A token is given out only after the character behind it was read, so
a failure behind the last character of a text loses exactly the token that ends there. Main
statement: what repeated calls give before the failure, at it and after it.
-/

namespace KayLexer

open Position (start)

/-- The tokens behind which there is another character of the text. -/
def Token.followed (cs : List Char) (ts : List Token) : List Token :=
  ts.filter fun t => t.stop cs < cs.length

/-- The first token of a text is followed unless its lexeme ends the text. -/
theorem followed_cons (pre g u rest : List Char) (k : TokenKind) (ts : List Token) :
    Token.followed (pre ++ (g ++ (u ++ rest))) (tokenBehind pre g u k :: ts) =
      if rest = [] then Token.followed (pre ++ (g ++ (u ++ rest))) ts
      else tokenBehind pre g u k :: Token.followed (pre ++ (g ++ (u ++ rest))) ts := by
  have hlen : pre.length + g.length + u.length < (pre ++ (g ++ (u ++ rest))).length ↔
      rest ≠ [] := by
    simp only [List.length_append, ← List.length_pos_iff]
    omega
  rw [Token.followed, List.filter_cons, stop_tokenBehind]
  by_cases h : rest = []
  · have hn : ¬ pre.length + g.length + u.length < (pre ++ (g ++ (u ++ rest))).length := by
      rw [hlen]
      exact not_not_intro h
    rw [if_pos h, if_neg (by simpa using hn)]
    rfl
  · have hp : pre.length + g.length + u.length < (pre ++ (g ++ (u ++ rest))).length := hlen.2 h
    rw [if_neg h, if_pos (by simpa using hp)]
    rfl

namespace Scanner

/-- The results of a number of calls for the next token, and the scanner after them. -/
def nexts (s : Scanner) : Nat → List (Except ReadError Token) × Scanner
  | 0 => ([], s)
  | n + 1 => (s.nextToken.1 :: (s.nextToken.2.nexts n).1, (s.nextToken.2.nexts n).2)

variable {s s' : Scanner} {e : Ending} {p : Position}

theorem nexts_succ {r : Except ReadError Token} (h : s.nextToken = (r, s')) (n : Nat) :
    s.nexts (n + 1) = (r :: (s'.nexts n).1, (s'.nexts n).2) := by
  rw [nexts, h]

/-- Calls depend on the next token. -/
theorem nexts_congr (h : s.nextToken = s'.nextToken) (n : Nat) :
    s.nexts (n + 1) = s'.nexts (n + 1) := by
  rw [nexts, nexts, h]

/-- Nothing happens any more at the end of the input. -/
theorem Sees.nexts_nil (h : s.Sees e p []) (n : Nat) :
    s.nexts n = (List.replicate n (.ok (.endOfFile p)), s) := by
  induction n with
  | zero => rfl
  | succ n ih => rw [nexts_succ h.nextToken_nil, ih]; rfl

/-! ### The calls before the failure, at it, and after it -/

/-- The calls on `s` give the tokens `kept`, the failure `x`, and the end token from then on. -/
structure FailsAfter (s : Scanner) (e : Ending) (x : Unreadable) (p : Position)
    (kept : List Token) : Prop where
  before : ∀ n ≤ kept.length, (s.nexts n).1 = (kept.take n).map .ok ∧
    (s.nexts n).2.atEnd = false ∧ (s.nexts n).2.log = e.log
  after : ∃ s', s'.Sees e p [] ∧ ∀ n, s.nexts (kept.length + 1 + n) =
    (kept.map .ok ++ .error (.unreadable x) :: List.replicate n (.ok (.endOfFile p)), s')

/-- The failure is met at once. -/
theorem failsAfter_nil {x : Unreadable} (ha : s.atEnd = false) (hl : s.log = e.log)
    (hn : s.nextToken = (.error (.unreadable x), s')) (hs : s'.Sees e p []) :
    FailsAfter s e x p [] := by
  refine ⟨?_, s', hs, ?_⟩
  · intro n h
    rw [Nat.le_zero.1 h]
    exact ⟨rfl, ha, hl⟩
  · intro n
    rw [List.length_nil, Nat.zero_add, Nat.add_comm, nexts_succ hn, hs.nexts_nil]
    rfl

/-- One more token is given out before. -/
theorem FailsAfter.cons {x : Unreadable} {t : Token} {kept : List Token} (ha : s.atEnd = false)
    (hl : s.log = e.log) (hn : s.nextToken = (.ok t, s')) (h : FailsAfter s' e x p kept) :
    FailsAfter s e x p (t :: kept) := by
  obtain ⟨before, s'', hs, after⟩ := h
  refine ⟨?_, s'', hs, ?_⟩
  · intro n hle
    cases n with
    | zero => exact ⟨rfl, ha, hl⟩
    | succ n =>
      rw [nexts_succ hn]
      obtain ⟨hr, hrest⟩ := before n (Nat.le_of_succ_le_succ hle)
      refine ⟨?_, hrest⟩
      rw [hr]
      rfl
  · intro n
    have hlen : (t :: kept).length + 1 + n = kept.length + 1 + n + 1 := by
      rw [List.length_cons]
      omega
    rw [hlen, nexts_succ hn, after n]
    rfl

/-- All that calls give depends on the next token. -/
theorem FailsAfter.congr {x : Unreadable} {kept : List Token} (ha : s.atEnd = false)
    (hl : s.log = e.log) (hn : s.nextToken = s'.nextToken) (h : FailsAfter s' e x p kept) :
    FailsAfter s e x p kept := by
  have hs := nexts_congr hn
  obtain ⟨before, s'', hs'', after⟩ := h
  refine ⟨?_, s'', hs'', ?_⟩
  · intro n hle
    cases n with
    | zero => exact ⟨rfl, ha, hl⟩
    | succ n =>
      rw [hs]
      exact before _ hle
  · intro n
    rw [Nat.add_right_comm, hs, ← Nat.add_right_comm]
    exact after n

/-- **Exactly the followed tokens are given out before the failure behind a text.** -/
theorem Sees.failsAfter (pre : List Char) {cs : List Char} {ts : List Token} {x : Unreadable}
    (h : s.Sees e (start.afterText pre) cs) (hcs : cs ≠ [])
    (hl : Lexed (start.afterText pre) cs ts) (he : e.failure = some x) :
    FailsAfter s e x (start.afterText (pre ++ cs)) (Token.followed (pre ++ cs) ts) := by
  generalize hp : start.afterText pre = p at h hl
  rw [Position.afterText_append, hp]
  have hopen : s.atEnd = false ∧ s.log = e.log := by
    cases cs with
    | nil => exact absurd rfl hcs
    | cons c cs => exact ⟨h.1, h.2.2.2.1⟩
  induction hl generalizing s pre with
  | trail ht =>
    obtain ⟨d, hd, -⟩ := ht.run
    obtain ⟨s', hn, hs'⟩ := h.nextToken_failure hcs hd he
    exact failsAfter_nil hopen.1 hopen.2 hn hs'
  | @token p g u rest k ts hg hu hr ih =>
    subst hp
    by_cases hrest : rest = []
    · -- the lexeme ends the text, so that the failure stands behind it
      subst hrest
      obtain ⟨d, hd⟩ := hg.run_lexeme hu.lexeme
      obtain ⟨s', hn, hs'⟩ := h.nextToken_failure hcs (by rwa [List.append_nil]) he
      have hk : Token.followed (pre ++ (g ++ (u ++ []))) (tokenBehind pre g u k :: ts) = [] := by
        rw [followed_cons, if_pos rfl, hr.eq_nil]
        rfl
      rw [tokenBehind] at hk
      rw [hk]
      exact failsAfter_nil hopen.1 hopen.2 hn hs'
    · obtain ⟨s₁, hn, h₁⟩ := h.nextToken_lexeme hg hu (Or.inl hrest)
      have hk := followed_cons pre g u rest k ts
      rw [if_neg hrest, tokenBehind] at hk
      rw [hk]
      have hp : start.afterText (pre ++ (g ++ u)) = (start.afterText pre).afterText (g ++ u) :=
        Position.afterText_append ..
      have hopen₁ : s₁.atEnd = false ∧ s₁.log = e.log := by
        cases rest with
        | nil => exact absurd rfl hrest
        | cons c rest => exact ⟨h₁.1, h₁.2.2.2.1⟩
      have := ih (pre ++ (g ++ u)) hrest hp h₁ hopen₁
      simp only [List.append_assoc] at this
      exact .cons hopen.1 hopen.2 hn (by simpa using this)

/-- **A failing source loses the token at the failure, and no other.** The source stands at the
start of its text, gives all of it, and then a character that cannot be read. The calls give the
tokens of the text that are followed by another character, then the failure, with the position
behind the text, and from then on the end token at that position. The scanner comes to its end with
the failure, records it, and does not touch the source any more. -/
theorem nexts_of_failure {source last : Source} {text : String} {x : Unreadable}
    (hp : source.position = start) (hd : source.Delivers last text.toList)
    (hx : last.read.1 = .error (.unreadable x)) :
    ∃ ts, (ofString text).tokenize.1 =
        .ok (ts ++ [.endOfFile (start.afterText text.toList)]) ∧
      x.position = start.afterText text.toList ∧
      (∀ n ≤ (Token.followed text.toList ts).length,
        ((ofSource source).nexts n).1 = ((Token.followed text.toList ts).take n).map .ok ∧
        ((ofSource source).nexts n).2.atEnd = false ∧ ((ofSource source).nexts n).2.log = []) ∧
      ∃ s' : Scanner, s'.atEnd = true ∧ s'.log = [⟨.error, .scanner, stopMessage x⟩] ∧
        s'.source = some last.read.2 ∧
        ∀ n, (ofSource source).nexts ((Token.followed text.toList ts).length + 1 + n) =
          ((Token.followed text.toList ts).map .ok ++ .error (.unreadable x) ::
            List.replicate n (.ok (.endOfFile x.position)), s') := by
  obtain ⟨ts, h⟩ := exists_lexed start text.toList
  let e : Ending := ⟨last, some x, [], hx⟩
  have hpos : x.position = start.afterText text.toList := by
    rw [Source.position_of_unreadable hx, hd.position, hp]
  obtain ⟨s₁, ha, h₁⟩ := advance_ofSource (e := e) rfl hd
  rw [hp] at h₁
  have hfails : FailsAfter (ofSource source) e x (start.afterText text.toList)
      (Token.followed text.toList ts) := by
    by_cases hn : text.toList = []
    · rw [if_pos hn] at ha
      rw [hn] at h h₁ ⊢
      rw [h.eq_nil]
      exact failsAfter_nil rfl rfl (scan_error rfl rfl ha) h₁
    · rw [if_neg hn] at ha
      exact .congr rfl rfl (nextToken_ofSource ha) (h₁.failsAfter [] hn h rfl)
  obtain ⟨before, s', hs, after⟩ := hfails
  rw [hpos]
  exact ⟨ts, tokenize_ofString h, rfl, before, s', hs.1, hs.2.2.2, hs.2.2.1, after⟩

/-- Of two words the second is lost if nothing can be read behind it. -/
theorem nexts_of_failure_behind_words : ∃ (source last : Source) (x : Unreadable) (s' : Scanner),
    source.position = start ∧ source.Delivers last "a b".toList ∧
    last.read.1 = .error (.unreadable x) ∧ ∀ n, (ofSource source).nexts (2 + n) =
      (.ok ⟨.identifier, "a", start⟩ :: .error (.unreadable x) ::
        List.replicate n (.ok (.endOfFile x.position)), s') := by
  obtain ⟨last, hd, hx⟩ := Source.delivers_encoded_failure (.utf8 "a b".toList) .device none
    (.plain "device not ready") []
  obtain ⟨ts, hts, -, -, s', -, -, -, h⟩ := nexts_of_failure rfl hd hx
  have hwords : (ofString "a b").tokenize.1 = .ok
      ([⟨.identifier, "a", start⟩, ⟨.identifier, "b", ⟨1, 3⟩⟩] ++ [.endOfFile ⟨1, 4⟩]) := by
    with_unfolding_all rfl
  rw [hwords] at hts
  obtain ⟨rfl, -⟩ := List.append_inj' (Except.ok.inj hts) rfl
  exact ⟨_, _, _, s', rfl, hd, hx, h⟩

end Scanner

end KayLexer
