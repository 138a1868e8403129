import KayLexer.Proofs.Lexing

/-!
Texts without comments and blanks, by a stripper that knows nothing of tokens. It goes through a
text from left to right, and the one thing that it remembers is whether a comment is open. Main
statements: it removes every gap and every trail, and keeps every longest lexeme.
-/

namespace KayLexer.Stripping

open CharClass

/-! ### The stripper -/

def blanks : List Char := [' ', '\t', '\r', '\n', '\x0c']

/-- What a comment ends before. -/
def lineEnds : List Char := ['\r', '\n', '\x0c']

/-- For each character of a text whether it is kept, where `inComment` says that a comment is open.
Outside of comments two slashes open one. -/
def marks (inComment : Bool) : List Char → List Bool
  | [] => []
  | c :: cs =>
    if inComment then false :: marks (c ∉ lineEnds) cs
    else if c = '/' ∧ cs.head? = some '/' then false :: marks true cs
    else (c ∉ blanks) :: marks false cs

/-- The characters with a mark. -/
def select : List Char → List Bool → List Char
  | c :: cs, b :: bs => if b then c :: select cs bs else select cs bs
  | _, _ => []

/-- The text without comments and blanks. -/
def strip (cs : List Char) : List Char := select cs (marks false cs)

/-- Whether the stripper removes the character at an offset. -/
def Removes (cs : List Char) (i : Nat) : Prop := (marks false cs)[i]? = some false

/-! ### Selecting -/

theorem select_false (g cs : List Char) (bs : List Bool) :
    select (g ++ cs) (g.map (fun _ => false) ++ bs) = select cs bs := by
  induction g with
  | nil => rfl
  | cons c g ih => exact ih

theorem select_true (u cs : List Char) (bs : List Bool) :
    select (u ++ cs) (u.map (fun _ => true) ++ bs) = u ++ select cs bs := by
  induction u with
  | nil => rfl
  | cons c u ih => exact congrArg (c :: ·) ih

/-! ### What is removed and what is kept -/

theorem marks_slashes (cs : List Char) :
    marks false ('/' :: '/' :: cs) = false :: false :: marks true cs := by
  simp [marks, lineEnds]

theorem marks_of_ne_slash {c : Char} (h : c ≠ '/') (cs : List Char) :
    marks false (c :: cs) = (!isWhitespace c) :: marks false cs := by
  rw [marks.eq_def]
  simp only [Bool.false_eq_true, if_false, h, false_and, decide_not]
  rfl

theorem marks_comment {c : Char} (cs : List Char) :
    marks true (c :: cs) = false :: marks (!isEndOfLine c) cs := by
  rw [marks.eq_def]
  simp only [if_true, decide_not]
  rfl

theorem marks_body {body : List Char} (h : ∀ c ∈ body, isEndOfLine c = false) (cs : List Char) :
    marks true (body ++ cs) = body.map (fun _ => false) ++ marks true cs := by
  induction body with
  | nil => rfl
  | cons c body ih =>
    obtain ⟨hc, hbody⟩ := List.forall_mem_cons.1 h
    rw [List.cons_append, marks_comment, hc, Bool.not_false, ih hbody]
    rfl

theorem ne_slash_of_isWhitespace {c : Char} (h : isWhitespace c = true) : c ≠ '/' := by
  rintro rfl
  exact absurd h (by decide)

/-- **Gaps are removed.** -/
theorem marks_gap {g : List Char} (h : Gap g) (cs : List Char) :
    marks false (g ++ cs) = g.map (fun _ => false) ++ marks false cs := by
  induction h with
  | nil => rfl
  | @blank c g hc _ ih =>
    rw [List.cons_append, marks_of_ne_slash (ne_slash_of_isWhitespace hc), hc, ih]
    rfl
  | @comment body g e hb he _ ih =>
    have hend : marks true (e :: (g ++ cs)) = false :: marks false (g ++ cs) := by
      rw [marks_comment, he]
      rfl
    simp only [List.cons_append, List.append_assoc]
    rw [marks_slashes, marks_body hb, hend, ih]
    simp only [List.map_cons, List.map_append, List.cons_append, List.append_assoc]

/-- **Trails are removed.** -/
theorem marks_trail {g : List Char} (h : Trail g) : marks false g = g.map fun _ => false := by
  cases h with
  | gap h =>
    have := marks_gap h []
    simpa only [List.append_nil, marks] using this
  | @comment g body h hb =>
    have := marks_body hb []
    rw [List.append_nil] at this
    rw [marks_gap h, marks_slashes, this]
    simp only [List.map_cons, List.map_append, marks, List.append_nil]

theorem marks_text {u : List Char} (h : ∀ c ∈ u, isWhitespace c = false ∧ c ≠ '/')
    (cs : List Char) : marks false (u ++ cs) = u.map (fun _ => true) ++ marks false cs := by
  induction u with
  | nil => rfl
  | cons c u ih =>
    obtain ⟨⟨hw, hs⟩, hu⟩ := List.forall_mem_cons.1 h
    rw [List.cons_append, marks_of_ne_slash hs, hw, ih hu]
    rfl

/-- **Longest lexemes are kept.** -/
theorem marks_longest {k : TokenKind} {u rest : List Char} (h : Longest k u rest) :
    marks false (u ++ rest) = u.map (fun _ => true) ++ marks false rest := by
  by_cases hs : '/' ∈ u
  · have hu := h.lexeme.eq_slash hs
    subst hu
    have hr : rest.head? ≠ some '/' := by
      intro hr
      obtain ⟨cs, rfl⟩ := List.head?_eq_some_iff.1 hr
      exact h.noComment ⟨cs, rfl⟩
    rw [List.cons_append, List.nil_append, marks.eq_def]
    simp only [Bool.false_eq_true, if_false, hr, and_false]
    rfl
  · have hu : ∀ c ∈ u, isWhitespace c = false ∧ c ≠ '/' := by
      intro c hc
      refine ⟨h.lexeme.isWhitespace c hc, ?_⟩
      rintro rfl
      exact hs hc
    exact marks_text hu rest

/-! ### Removed offsets -/

variable {cs g u : List Char} {i : Nat}

theorem removes_gap (h : Gap g) :
    Removes (g ++ cs) i ↔ i < g.length ∨ Removes cs (i - g.length) := by
  rw [Removes, marks_gap h, List.getElem?_append, List.length_map]
  split
  · next hi => simp [hi]
  · next hi => simp [hi, Removes]

theorem removes_longest {k : TokenKind} (h : Longest k u cs) :
    Removes (u ++ cs) i ↔ ¬ i < u.length ∧ Removes cs (i - u.length) := by
  rw [Removes, marks_longest h, List.getElem?_append, List.length_map]
  split
  · next hi => simp [hi]
  · next hi => simp [hi, Removes]

theorem removes_trail (h : Trail g) (hi : i < g.length) : Removes g i := by
  rw [Removes, marks_trail h]
  simp [hi]

end KayLexer.Stripping
