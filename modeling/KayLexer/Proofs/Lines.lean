import Mathlib.Data.List.Induction
import KayLexer.Proofs.Tokenization

/-!
Lines of a text. A position is a line and a column, and so a place in the list of lines: behind a
text it names the last line and the column that follows what stands there. Main statement: each
token is found in the line and at the column that its position names.
-/

namespace KayLexer

open Position (start)

/-! ### Splitting a text -/

/-- The lines of a text, at least one. The line feed that ends a line is in none of them. -/
def lines (cs : List Char) : List (List Char) := cs.splitOn '\n'

variable {cs d u : List Char} {ms : List (List Char)}

theorem exists_lines (cs : List Char) : ∃ d ms, lines cs = d :: ms := by
  apply List.exists_cons_of_ne_nil
  unfold lines
  simp

theorem lines_append_newline (cs ds : List Char) :
    lines (cs ++ '\n' :: ds) = lines cs ++ lines ds := by
  unfold lines
  exact List.splitOn_append_cons_self cs ds

theorem lines_cons_newline (cs : List Char) : lines ('\n' :: cs) = [] :: lines cs :=
  lines_append_newline [] cs

/-- What is put in front of a text without a line feed comes into the first line. -/
theorem lines_append_of_notMem (hu : '\n' ∉ u) (h : lines cs = d :: ms) :
    lines (u ++ cs) = (u ++ d) :: ms := by
  induction u with
  | nil => exact h
  | cons c u ih =>
    obtain ⟨hc, hu⟩ := List.ne_and_not_mem_of_not_mem_cons hu
    have ih := ih hu
    unfold lines at ih ⊢
    rw [List.cons_append, List.splitOn_cons_eq_if_modifyHead, ih]
    simp [Ne.symm hc]

/-! ### The place behind a text -/

/-- **The position behind a text is its last line and the column that follows it there**, and
whatever stands behind the text goes on from that column. -/
theorem exists_lines_append (pre : List Char) : ∃ (ls : List (List Char)) (b : List Char),
    start.afterText pre = ⟨ls.length + 1, b.length + 1⟩ ∧
    ∀ {cs d : List Char} {ms : List (List Char)}, lines cs = d :: ms →
      lines (pre ++ cs) = ls ++ (b ++ d) :: ms := by
  -- from the back, since a character at the end moves the position by one step
  induction pre using List.reverseRecOn with
  | nil =>
    refine ⟨[], [], rfl, ?_⟩
    intro cs d ms h
    simpa using h
  | append_singleton pre c ih =>
    obtain ⟨ls, b, hp, hls⟩ := ih
    by_cases hc : c = '\n'
    · subst hc
      refine ⟨ls ++ [b], [], ?_, ?_⟩
      · rw [Position.afterText_append, hp]
        simp [Position.after_newline, Position.nextLine]
      · intro cs d ms h
        have hline : lines ('\n' :: cs) = [] :: d :: ms := by rw [lines_cons_newline, h]
        have := hls hline
        simpa using this
    · refine ⟨ls, b ++ [c], ?_, ?_⟩
      · rw [Position.afterText_append, hp]
        simp [Position.after_of_ne hc, Position.nextColumn]
      · intro cs d ms h
        have hline : lines (c :: cs) = (c :: d) :: ms :=
          lines_append_of_notMem (u := [c]) (by simpa using Ne.symm hc) h
        have := hls hline
        simpa using this

theorem exists_getLast?_lines (cs : List Char) : ∃ b, (lines cs).getLast? = some b ∧
    start.afterText cs = ⟨(lines cs).length, b.length + 1⟩ := by
  obtain ⟨ls, b, hp, hls⟩ := exists_lines_append cs
  have hlines : lines cs = ls ++ [b] := by
    have hnil : lines [] = [[]] := rfl
    simpa using hls hnil
  refine ⟨b, ?_, ?_⟩
  · simp [hlines]
  · rw [hp, hlines]
    simp

/-! ### Tokens in lines -/

/-- The token is what stands in the line of its position from its column on. -/
structure Token.LocatedIn (t : Token) (ls : List (List Char)) : Prop where
  line_pos : 1 ≤ t.position.line
  line_le : t.position.line ≤ ls.length
  column_pos : 1 ≤ t.position.column
  text : ∃ line, ls[(t.position.line - 1).toNat]? = some line ∧
    (line.drop (t.position.column - 1).toNat).take t.text.length = t.text.toList

/-- **A token without a line feed is found in the line and at the column of its position.** -/
theorem Token.StandsIn.locatedIn {t : Token} (h : t.StandsIn cs) (hn : '\n' ∉ t.text.toList) :
    t.LocatedIn (lines cs) := by
  obtain ⟨ls, b, hp, hls⟩ := exists_lines_append (cs.take (t.offset cs))
  obtain ⟨d, ms, hd⟩ := exists_lines ((cs.drop (t.offset cs)).drop t.text.length)
  have htext : cs = cs.take (t.offset cs) ++
      (t.text.toList ++ (cs.drop (t.offset cs)).drop t.text.length) := by
    rw [← h.text, List.take_append_drop, List.take_append_drop]
  have hlines : lines cs = ls ++ (b ++ (t.text.toList ++ d)) :: ms := by
    have := hls (lines_append_of_notMem hn hd)
    rwa [← htext] at this
  have hpos : t.position = ⟨ls.length + 1, b.length + 1⟩ := h.position.trans hp
  refine ⟨?_, ?_, ?_, b ++ (t.text.toList ++ d), ?_, ?_⟩
  · rw [hpos]
    simp only
    omega
  · rw [hpos, hlines, List.length_append, List.length_cons]
    simp only
    omega
  · rw [hpos]
    simp only
    omega
  · rw [hpos, hlines]
    simp
  · have hb : ((b.length : Int) + 1 - 1).toNat = b.length := by omega
    rw [hpos]
    simp only [hb]
    rw [List.drop_left, List.take_left' String.length_toList]

/-- What stands in a text ends in it. -/
theorem Token.StandsIn.stop_le {t : Token} (h : t.StandsIn cs) : t.stop cs ≤ cs.length := by
  have hlen := congrArg List.length h.text
  have hpos : t.text.length ≠ 0 := by simpa using h.nonempty
  rw [List.length_take, List.length_drop, String.length_toList] at hlen
  unfold Token.stop
  omega

/-- **No token of a text goes over the end of a line.** -/
theorem Lexed.newline_notMem {p : Position} {ts : List Token} (h : Lexed p cs ts) :
    ∀ t ∈ ts, '\n' ∉ t.text.toList := by
  induction h with
  | trail => simp
  | token _ hl _ ih =>
    intro t ht
    rcases List.mem_cons.1 ht with rfl | ht
    · simpa using hl.lexeme.newline_notMem
    · exact ih t ht

/-! ### The order of tokens -/

theorem Position.before_take {m n : Nat} (hmn : m < n) (hn : n ≤ cs.length) :
    (start.afterText (cs.take m)).Before (start.afterText (cs.take n)) := by
  obtain ⟨k, rfl⟩ : ∃ k, n = m + k := ⟨n - m, by omega⟩
  rw [List.take_add, afterText_append]
  apply before_afterText
  intro h
  have hlen := congrArg List.length h
  simp only [List.length_take, List.length_drop, List.length_nil] at hlen
  omega

/-- **The positions of tokens ascend, and the end of the text is behind all of them.** -/
theorem Lexed.pairwise_before {ts : List Token} (h : Lexed start cs ts) :
    (ts ++ [Token.endOfFile (start.afterText cs)]).Pairwise
      fun t u => t.position.Before u.position := by
  have hstands : ∀ t ∈ ts, t.StandsIn cs := by
    intro t ht
    exact (h.forall_mem [] t ht).1
  have hlt : ∀ t ∈ ts, t.offset cs < t.stop cs := by
    intro t ht
    have hpos : t.text.length ≠ 0 := by simpa using (hstands t ht).nonempty
    unfold Token.stop
    omega
  rw [List.pairwise_append]
  refine ⟨?_, by simp, ?_⟩
  · refine (h.pairwise []).imp_of_mem ?_
    intro t u ht hu hstop
    have htu : t.offset cs < u.offset cs := Nat.lt_of_lt_of_le (hlt t ht) hstop
    have hle : u.offset cs ≤ cs.length :=
      Nat.le_trans (Nat.le_of_lt (hlt u hu)) (hstands u hu).stop_le
    rw [(hstands t ht).position, (hstands u hu).position]
    exact Position.before_take htu hle
  · intro t ht u hu
    obtain rfl := List.mem_singleton.1 hu
    have hend : t.offset cs < cs.length := Nat.lt_of_lt_of_le (hlt t ht) (hstands t ht).stop_le
    have := Position.before_take hend (Nat.le_refl cs.length)
    rwa [List.take_length, ← (hstands t ht).position] at this

namespace Scanner

/-- **Line and column locate a token.** Each token is what stands in the line and at the column of
its position, so that none goes over the end of a line. The end token stands behind the last
character of the last line, and the positions ascend, by line and then by column. -/
theorem tokenize_located (text : String) : ∃ (ts : List Token) (p : Position) (last : List Char),
    (ofString text).tokenize.1 = .ok (ts ++ [.endOfFile p]) ∧
    (∀ t ∈ ts, t.isEndOfFile = false ∧ t.LocatedIn (lines text.toList)) ∧
    (lines text.toList).getLast? = some last ∧
    p = ⟨(lines text.toList).length, last.length + 1⟩ ∧
    (ts ++ [Token.endOfFile p]).Pairwise fun t u => t.position.Before u.position := by
  obtain ⟨ts, h⟩ := exists_lexed start text.toList
  obtain ⟨last, hlast, hp⟩ := exists_getLast?_lines text.toList
  refine ⟨ts, start.afterText text.toList, last, tokenize_ofString h, ?_, hlast, hp,
    h.pairwise_before⟩
  intro t ht
  obtain ⟨hstands, -⟩ := h.forall_mem [] t ht
  exact ⟨h.not_isEndOfFile t ht, hstands.locatedIn (h.newline_notMem t ht)⟩

end Scanner

end KayLexer
