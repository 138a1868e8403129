import KayLexer.Proofs.Layout
import KayLexer.Proofs.Lines

/-!
Printed tokens, read back. Nothing in a printed line is escaped, but the line begins with a name
that holds neither space nor quote, it ends in a quote, and no token goes over the end of a line.
Main statement: the kinds and the texts of all tokens can be read off what is printed.
-/

namespace KayLexer

open Position (start)

namespace Token

/-! ### One line -/

/-- What stands in front of the first space. -/
def frontOf (line : List Char) : List Char := line.takeWhile (· ≠ ' ')

/-- What stands between the first quote and the last one. -/
def quotedIn (line : List Char) : List Char :=
  let behind := (line.dropWhile (· ≠ '\x22')).tail
  (behind.reverse.dropWhile (· ≠ '\x22')).tail.reverse

/-- The kind and the text that a printed line shows. -/
def readLine (line : List Char) : Option (TokenKind × List Char) :=
  (TokenKind.ofName? (String.ofList (frontOf line))).map (·, quotedIn line)

theorem toList_render (t : Token) :
    t.render.toList = t.kind.name.toList ++ ' ' :: '\x22' :: (t.text.toList ++ ['\x22']) := by
  simp [render]

/-- The name of a kind holds nothing that a printed line is read by. -/
theorem not_mem_name (k : TokenKind) : ∀ c ∈ k.name.toList, c ≠ ' ' ∧ c ≠ '\x22' ∧ c ≠ '\n' := by
  cases k <;> simp [TokenKind.name]

theorem frontOf_render (t : Token) : frontOf t.render.toList = t.kind.name.toList := by
  have hname : ∀ c ∈ t.kind.name.toList, decide (c ≠ ' ') = true := by
    intro c hc
    simpa using (not_mem_name t.kind c hc).1
  rw [frontOf, toList_render, List.takeWhile_append_of_pos hname]
  simp

theorem quotedIn_render (t : Token) : quotedIn t.render.toList = t.text.toList := by
  have hname : ∀ c ∈ t.kind.name.toList, decide (c ≠ '\x22') = true := by
    intro c hc
    simpa using (not_mem_name t.kind c hc).2.1
  unfold quotedIn
  rw [toList_render, List.dropWhile_append_of_pos hname]
  simp

/-- **A printed line shows the kind and the text of its token.** -/
theorem readLine_render (t : Token) : readLine t.render.toList = some t.lexeme := by
  rw [readLine, frontOf_render, quotedIn_render, String.ofList_toList, TokenKind.ofName?_name]
  rfl

/-! ### All lines -/

variable {ts us : List Token}

theorem newline_notMem_render {t : Token} (h : '\n' ∉ t.text.toList) : '\n' ∉ t.render.toList := by
  have hname : '\n' ∉ t.kind.name.toList := by
    intro hc
    exact (not_mem_name t.kind '\n' hc).2.2 rfl
  rw [toList_render]
  simp [hname, h]

theorem toList_renderLines (ts : List Token) :
    (renderLines ts).toList = ts.flatMap fun t => t.render.toList ++ ['\n'] := by
  simp [renderLines, String.toList_join, List.flatMap_map]

/-- **Each printed token takes one line.** -/
theorem lines_renderLines (h : ∀ t ∈ ts, '\n' ∉ t.text.toList) :
    lines (renderLines ts).toList = (ts.map fun t => t.render.toList) ++ [[]] := by
  rw [toList_renderLines]
  induction ts with
  | nil => rfl
  | cons t ts ih =>
    obtain ⟨ht, hts⟩ := List.forall_mem_cons.1 h
    have hline : lines ([] : List Char) = [[]] := rfl
    have hfirst := lines_append_of_notMem (newline_notMem_render ht) hline
    rw [List.append_nil] at hfirst
    rw [List.flatMap_cons, List.append_assoc, List.singleton_append, lines_append_newline, hfirst,
      ih hts]
    rfl

/-- Only kinds and texts are printed. -/
theorem renderLines_eq (ts : List Token) : renderLines ts =
    String.join ((ts.map lexeme).map fun l => render ⟨l.1, String.ofList l.2, start⟩ ++ "\n") := by
  simp [renderLines, render, lexeme, Function.comp_def]

/-- **The kinds and the texts of tokens can be told from what is printed of them.** -/
theorem renderLines_inj (ht : ∀ t ∈ ts, '\n' ∉ t.text.toList)
    (hu : ∀ u ∈ us, '\n' ∉ u.text.toList) :
    renderLines ts = renderLines us ↔ ts.map lexeme = us.map lexeme := by
  constructor
  · intro h
    have hlines : lines (renderLines ts).toList = lines (renderLines us).toList := by rw [h]
    rw [lines_renderLines ht, lines_renderLines hu] at hlines
    have hread := congrArg (List.map readLine) (List.append_cancel_right hlines)
    simp only [List.map_map, Function.comp_def, readLine_render] at hread
    apply (List.map_inj_right fun _ _ => Option.some.inj).1
    rw [List.map_map, List.map_map]
    exact hread
  · intro h
    rw [renderLines_eq, renderLines_eq, h]

end Token

/-! ### The tokens of a text -/

/-- Neither the tokens of a text nor the end token go over the end of a line. -/
theorem Lexed.newline_notMem_all {p q : Position} {cs : List Char} {ts : List Token}
    (h : Lexed p cs ts) : ∀ t ∈ ts ++ [.endOfFile q], '\n' ∉ t.text.toList := by
  intro t ht
  rcases List.mem_append.1 ht with ht | ht
  · exact h.newline_notMem t ht
  · have hlabel : '\n' ∉ "EOF".toList := by decide
    rw [List.mem_singleton.1 ht]
    exact hlabel

namespace Scanner

theorem print_eq (s : Scanner) : s.print.1 = s.tokenize.1.map Token.renderLines := rfl

/-- **Printed tokens can be read back.** What is printed for a text ends in a line feed, and there
is one line for each token. The kinds and the texts of all tokens can be read off the lines, so that
two texts are printed alike if their tokens agree in kinds and texts, and only then. -/
theorem print_reads_back (text : String) : ∃ (ts : List Token) (output : String)
    (ls : List (List Char)),
    (ofString text).tokenize.1 = .ok ts ∧ (ofString text).print.1 = .ok output ∧
    output.toList.getLast? = some '\n' ∧
    lines output.toList = ls ++ [[]] ∧ ls.length = ts.length ∧
    ls.map Token.readLine = ts.map (fun t => some t.lexeme) ∧
    ∀ text' : String, (ofString text').print.1 = .ok output ↔
      ∃ us, (ofString text').tokenize.1 = .ok us ∧ us.map Token.lexeme = ts.map Token.lexeme := by
  obtain ⟨ts, h⟩ := exists_lexed start text.toList
  have hts := h.newline_notMem_all (q := start.afterText text.toList)
  refine ⟨_, _, _, tokenize_ofString h, ?_, ?_, Token.lines_renderLines hts, by simp, ?_, ?_⟩
  · rw [print_eq, tokenize_ofString h]
    rfl
  · simp [Token.toList_renderLines]
  · simp [Function.comp_def, Token.readLine_render]
  · intro text'
    obtain ⟨us, h'⟩ := exists_lexed start text'.toList
    have hus := h'.newline_notMem_all (q := start.afterText text'.toList)
    rw [print_eq, tokenize_ofString h']
    constructor
    · intro hprint
      exact ⟨_, rfl, (Token.renderLines_inj hus hts).1 (Except.ok.inj hprint)⟩
    · rintro ⟨vs, hvs, hagree⟩
      obtain rfl := Except.ok.inj hvs
      exact congrArg Except.ok ((Token.renderLines_inj hus hts).2 hagree)

end Scanner

end KayLexer
