import KayLexer.Proofs.Offset
import KayLexer.Proofs.Scanner.Outlook
import KayLexer.Proofs.Stripping

/-!
What the tokens of a text are. They stand in the text apart from each other, each at the offset
that its position names; together they cover what the stripper keeps and nothing else; and each is
the longest lexeme that stands at its place.
-/

namespace KayLexer

open Position (start)

/-! ### Tokens in a text -/

/-- The token is a piece of the text, and its position is that of the piece. -/
structure Token.StandsIn (t : Token) (cs : List Char) : Prop where
  nonempty : t.text ≠ ""
  position : t.position = start.afterText (cs.take (t.offset cs))
  text : (cs.drop (t.offset cs)).take t.text.length = t.text.toList

/-- The token is the longest lexeme at its place, of the kind that the language gives it, and no
comment begins there. -/
structure Token.IsLongestIn (t : Token) (cs : List Char) : Prop where
  kind : ∀ k, Lexeme k t.text.toList ↔ k = t.kind
  here : t.text.toList <+: cs.drop (t.offset cs)
  longest : ∀ k u, Lexeme k u → u <+: cs.drop (t.offset cs) → u.length ≤ t.text.length
  noComment : ¬ ['/', '/'] <+: cs.drop (t.offset cs)

section Behind

variable (pre g u rest : List Char) (k : TokenKind)

/-- The token of a lexeme behind a gap. -/
def tokenBehind : Token := ⟨k, String.ofList u, (start.afterText pre).afterText g⟩

theorem length_tokenBehind : (tokenBehind pre g u k).text.length = u.length := by
  rw [tokenBehind, ← String.length_toList, String.toList_ofList]

theorem offset_tokenBehind :
    (tokenBehind pre g u k).offset (pre ++ (g ++ (u ++ rest))) = pre.length + g.length := by
  rw [tokenBehind, Token.offset, ← Position.afterText_append, ← List.append_assoc,
    Position.offsetIn_afterText, List.length_append]

theorem stop_tokenBehind : (tokenBehind pre g u k).stop (pre ++ (g ++ (u ++ rest))) =
    pre.length + g.length + u.length := by
  rw [Token.stop, offset_tokenBehind, length_tokenBehind]

theorem drop_tokenBehind :
    (pre ++ (g ++ (u ++ rest))).drop ((tokenBehind pre g u k).offset (pre ++ (g ++ (u ++ rest)))) =
      u ++ rest := by
  rw [offset_tokenBehind, ← List.length_append, ← List.append_assoc, List.drop_left]

theorem standsIn_tokenBehind (hu : u ≠ []) :
    (tokenBehind pre g u k).StandsIn (pre ++ (g ++ (u ++ rest))) := by
  refine ⟨?_, ?_, ?_⟩
  · intro h
    apply hu
    simpa [tokenBehind] using congrArg String.toList h
  · rw [offset_tokenBehind, ← List.length_append, ← List.append_assoc, List.take_left,
      Position.afterText_append]
    rfl
  · rw [drop_tokenBehind, length_tokenBehind, List.take_left]
    exact String.toList_ofList.symm

theorem isLongestIn_tokenBehind (h : Longest k u rest) :
    (tokenBehind pre g u k).IsLongestIn (pre ++ (g ++ (u ++ rest))) := by
  have ht : (tokenBehind pre g u k).text.toList = u := String.toList_ofList
  refine ⟨?_, ?_, ?_, ?_⟩
  · intro k'
    rw [ht]
    constructor
    · intro hk
      exact hk.kindOf_eq.symm.trans h.lexeme.kindOf_eq
    · rintro rfl
      exact h.lexeme
  · rw [drop_tokenBehind, ht]
    exact List.prefix_append u rest
  · intro k' v hv hp
    rw [drop_tokenBehind] at hp
    rw [length_tokenBehind]
    exact h.longest hv hp
  · rw [drop_tokenBehind]
    exact h.noComment

end Behind

/-! ### The tokens that a text falls into -/

theorem Lexed.not_isEndOfFile {p : Position} {cs : List Char} {ts : List Token}
    (h : Lexed p cs ts) : ∀ t ∈ ts, t.isEndOfFile = false := by
  induction h with
  | trail => simp
  | token _ hl _ ih =>
    intro t ht
    rcases List.mem_cons.1 ht with rfl | ht
    · exact hl.lexeme.not_isEndOfFile _ _
    · exact ih t ht

/-- **Each token stands in the text and is the longest lexeme at its place.** -/
theorem Lexed.forall_mem (pre : List Char) {cs : List Char} {ts : List Token}
    (h : Lexed (start.afterText pre) cs ts) :
    ∀ t ∈ ts, t.StandsIn (pre ++ cs) ∧ t.IsLongestIn (pre ++ cs) ∧
      pre.length ≤ t.offset (pre ++ cs) := by
  generalize hp : start.afterText pre = p at h
  induction h generalizing pre with
  | trail => simp
  | @token p g u rest k ts _ hl _ ih =>
    subst hp
    intro t ht
    rcases List.mem_cons.1 ht with rfl | ht
    · have ho := offset_tokenBehind pre g u rest k
      refine ⟨standsIn_tokenBehind pre g u rest k hl.lexeme.ne_nil,
        isLongestIn_tokenBehind pre g u rest k hl, ?_⟩
      rw [tokenBehind] at ho
      rw [ho]
      omega
    · have := ih (pre ++ (g ++ u)) (Position.afterText_append ..) t ht
      simp only [List.append_assoc, List.length_append] at this
      exact ⟨this.1, this.2.1, Nat.le_of_add_right_le this.2.2⟩

/-- The tokens behind a token begin where it stops, or later. -/
theorem Lexed.pairwise (pre : List Char) {cs : List Char} {ts : List Token}
    (h : Lexed (start.afterText pre) cs ts) :
    ts.Pairwise fun t u => t.stop (pre ++ cs) ≤ u.offset (pre ++ cs) := by
  generalize hp : start.afterText pre = p at h
  induction h generalizing pre with
  | trail => exact .nil
  | @token p g u rest k ts _ hl hr ih =>
    subst hp
    have hp : start.afterText (pre ++ (g ++ u)) = (start.afterText pre).afterText (g ++ u) :=
      Position.afterText_append ..
    have hpw := ih _ hp
    rw [← hp] at hr
    have hle := hr.forall_mem (pre ++ (g ++ u))
    simp only [List.append_assoc] at hpw hle
    refine .cons ?_ hpw
    intro t ht
    have := (hle t ht).2.2
    have hs := stop_tokenBehind pre g u rest k
    rw [tokenBehind] at hs
    rw [hs]
    simpa [Nat.add_assoc] using this

/-- **The stripper removes what no token covers.** -/
theorem Lexed.removes_iff (pre : List Char) {cs : List Char} {ts : List Token} {i : Nat}
    (h : Lexed (start.afterText pre) cs ts) (hi : i < cs.length) :
    Stripping.Removes cs i ↔ ∀ t ∈ ts, ¬ t.Covers (pre ++ cs) (pre.length + i) := by
  generalize hp : start.afterText pre = p at h
  induction h generalizing pre i with
  | trail ht => simp [Stripping.removes_trail ht hi]
  | @token p g u rest k ts hg hl hr ih =>
    subst hp
    have hp : start.afterText (pre ++ (g ++ u)) = (start.afterText pre).afterText (g ++ u) :=
      Position.afterText_append ..
    rw [← hp] at hr
    have hle := hr.forall_mem (pre ++ (g ++ u))
    have ih := ih (pre ++ (g ++ u)) (i := i - g.length - u.length)
    have ho := offset_tokenBehind pre g u rest k
    have hs := stop_tokenBehind pre g u rest k
    rw [tokenBehind] at ho hs
    simp only [List.append_assoc, List.length_append] at hle ih hi
    simp only [List.forall_mem_cons, Stripping.removes_gap hg, Stripping.removes_longest hl,
      Token.Covers, ho, hs]
    by_cases h₁ : i < g.length
    · -- inside the gap, before all tokens
      refine iff_of_true (Or.inl h₁) ⟨by omega, ?_⟩
      intro t ht
      have := (hle t ht).2.2
      omega
    by_cases h₂ : i < g.length + u.length
    · -- inside the first token
      refine iff_of_false (by omega) ?_
      rintro ⟨hcovers, -⟩
      omega
    · -- behind the first token
      have hi' : pre.length + (g.length + u.length) + (i - g.length - u.length) =
          pre.length + i := by omega
      have ih := ih (by omega) hp
      rw [hi'] at ih
      simp only [Token.Covers] at ih
      rw [ih]
      constructor
      · rintro (h | ⟨-, h⟩)
        · exact absurd h h₁
        · exact ⟨by omega, h⟩
      · rintro ⟨-, h⟩
        exact Or.inr ⟨by omega, h⟩

/-- **The tokens are what the stripper keeps.** -/
theorem Lexed.strip {p : Position} {cs : List Char} {ts : List Token} (h : Lexed p cs ts) :
    ts.flatMap (·.text.toList) = Stripping.strip cs := by
  induction h with
  | @trail p g ht =>
    have := Stripping.select_false g [] []
    rw [List.append_nil, List.append_nil] at this
    rw [Stripping.strip, Stripping.marks_trail ht, this]
    rfl
  | @token p g u rest k ts hg hl _ ih =>
    rw [Stripping.strip, Stripping.marks_gap hg, Stripping.marks_longest hl,
      Stripping.select_false, Stripping.select_true, List.flatMap_cons, ih, String.toList_ofList]
    rfl

namespace Scanner

/-! ### The tokens of a text -/

/-- **Tokens lose nothing and displace nothing.** Scanning a text ends, with the end token once and
last. The tokens before it stand in the text, each behind the one before it, at the offsets that
their positions name, and the offsets that none of them covers are those of comments and blanks. -/
theorem tokenize_lossless (text : String) : ∃ ts : List Token,
    (ofString text).tokenize.1 = .ok (ts ++ [.endOfFile (start.afterText text.toList)]) ∧
    (∀ t ∈ ts, t.isEndOfFile = false ∧ t.StandsIn text.toList) ∧
    ts.Pairwise (fun t u => t.offset text.toList < u.offset text.toList ∧
      t.stop text.toList ≤ u.offset text.toList) ∧
    (∀ i < text.toList.length,
      (∀ t ∈ ts, ¬ t.Covers text.toList i) ↔ Stripping.Removes text.toList i) ∧
    ts.flatMap (·.text.toList) = Stripping.strip text.toList := by
  obtain ⟨ts, h⟩ := exists_lexed start text.toList
  have hstands : ∀ t ∈ ts, t.StandsIn text.toList := by
    intro t ht
    exact (h.forall_mem [] t ht).1
  refine ⟨ts, tokenize_ofString h, ?_, ?_, ?_, h.strip⟩
  · intro t ht
    exact ⟨h.not_isEndOfFile t ht, hstands t ht⟩
  · apply (h.pairwise []).imp_of_mem
    intro t u ht _ hstop
    have hne : t.text.length ≠ 0 := by simpa using (hstands t ht).nonempty
    have hlt : t.offset text.toList < t.stop text.toList := by
      rw [Token.stop]
      omega
    exact ⟨Nat.lt_of_lt_of_le hlt hstop, hstop⟩
  · intro i hi
    have := h.removes_iff [] hi
    simpa using this.symm

/-- **The scanner is the longest-match lexer of the language.** -/
theorem tokenize_longest (text : String) : ∃ ts : List Token,
    (ofString text).tokenize.1 = .ok (ts ++ [.endOfFile (start.afterText text.toList)]) ∧
    ∀ t ∈ ts, t.StandsIn text.toList ∧ t.IsLongestIn text.toList := by
  obtain ⟨ts, h⟩ := exists_lexed start text.toList
  refine ⟨ts, tokenize_ofString h, ?_⟩
  intro t ht
  obtain ⟨hstands, hlongest, -⟩ := h.forall_mem [] t ht
  exact ⟨hstands, hlongest⟩

end Scanner

end KayLexer
