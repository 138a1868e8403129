import KayLexer.Proofs.Drafts

/-!
How a text falls into lexemes. Between two lexemes stand gaps, which are whitespace and comments,
and at each place where no gap stands the longest lexeme counts. Main statement: every text falls
into lexemes in this way.
-/

namespace KayLexer

open CharClass

/-! ### Gaps -/

/-- Whitespace and whole comments, the ends of whose lines are there. -/
inductive Gap : List Char → Prop where
  | nil : Gap []
  | blank {c : Char} {g : List Char} : isWhitespace c = true → Gap g → Gap (c :: g)
  | comment {body g : List Char} {e : Char} : (∀ c ∈ body, isEndOfLine c = false) →
      isEndOfLine e = true → Gap g → Gap ('/' :: '/' :: (body ++ e :: g))

/-- What may stand behind the last lexeme: a gap, and a comment that the text ends in. -/
inductive Trail : List Char → Prop where
  | gap {g : List Char} : Gap g → Trail g
  | comment {g body : List Char} : Gap g → (∀ c ∈ body, isEndOfLine c = false) →
      Trail (g ++ '/' :: '/' :: body)

theorem Gap.append {g h : List Char} (hg : Gap g) (hh : Gap h) : Gap (g ++ h) := by
  induction hg with
  | nil => exact hh
  | blank hc _ ih => exact .blank hc ih
  | comment hb he _ ih =>
    have := Gap.comment hb he ih
    simpa using this

theorem Trail.append {g h : List Char} (hg : Gap g) (hh : Trail h) : Trail (g ++ h) := by
  cases hh with
  | gap hh => exact .gap (hg.append hh)
  | comment hh hb =>
    rw [← List.append_assoc]
    exact .comment (hg.append hh) hb

/-- A gap leads a draft between tokens back there. -/
theorem Gap.run {g : List Char} (h : Gap g) : Draft.gap.run g = some .gap := by
  induction h with
  | nil => rfl
  | @blank c g hc _ ih =>
    have ho : Draft.opening c = .gap := if_pos hc
    rw [Draft.run_cons, Draft.extend, ho]
    exact ih
  | @comment body g e hb he _ ih =>
    have hend : Draft.comment.extend e = some .gap := by rw [Draft.extend, if_pos he]
    have hbody : Draft.comment.run (body ++ e :: g) = some .gap := by
      rw [Draft.run_append, Draft.run_comment hb, Option.bind_some, Draft.run_cons, hend]
      exact ih
    exact hbody

/-- A gap and a lexeme behind it are taken whole. -/
theorem Gap.run_lexeme {g u : List Char} {k : TokenKind} (h : Gap g) (hu : Lexeme k u) :
    ∃ d, Draft.gap.run (g ++ u) = some d := by
  rw [Draft.run_append, h.run]
  cases u with
  | nil => exact ⟨.gap, rfl⟩
  | cons c u =>
    obtain ⟨d, hd, -⟩ := Draft.opening_of_lexeme hu
    exact ⟨d, hd.run⟩

/-- A trail is taken whole, and no token comes of it. -/
theorem Trail.run {g : List Char} (h : Trail g) :
    ∃ d, Draft.gap.run g = some d ∧ d.finish = none := by
  cases h with
  | gap h => exact ⟨.gap, h.run, rfl⟩
  | @comment g body h hb =>
    refine ⟨.comment, ?_, rfl⟩
    rw [Draft.run_append, h.run]
    exact Draft.run_comment hb

/-! ### Longest lexemes -/

/-- The text `u`, behind which `rest` stands, is the longest lexeme that stands there, its kind is
`k`, and no comment begins there. -/
structure Longest (k : TokenKind) (u rest : List Char) : Prop where
  lexeme : Lexeme k u
  noComment : ¬ ['/', '/'] <+: u ++ rest
  longest : ∀ {k' : TokenKind} {v : List Char}, Lexeme k' v → v <+: u ++ rest →
    v.length ≤ u.length

/-- How a text whose first character stands at a position falls into tokens. -/
inductive Lexed : Position → List Char → List Token → Prop where
  | trail {p : Position} {g : List Char} : Trail g → Lexed p g []
  | token {p : Position} {g u rest : List Char} {k : TokenKind} {ts : List Token} : Gap g →
      Longest k u rest → Lexed (p.afterText (g ++ u)) rest ts →
      Lexed p (g ++ (u ++ rest)) (⟨k, String.ofList u, p.afterText g⟩ :: ts)

theorem Lexed.eq_nil {p : Position} {ts : List Token} (h : Lexed p [] ts) : ts = [] := by
  generalize hc : ([] : List Char) = cs at h
  cases h with
  | trail => rfl
  | token _ hl _ =>
    have := (List.append_eq_nil_iff.1 (List.append_eq_nil_iff.1 hc.symm).2).1
    exact absurd this hl.lexeme.ne_nil

/-- A gap in front of a text moves its tokens. -/
theorem Lexed.append_gap {p : Position} {g cs : List Char} {ts : List Token} (hg : Gap g)
    (h : Lexed (p.afterText g) cs ts) : Lexed p (g ++ cs) ts := by
  cases h with
  | trail ht => exact .trail (ht.append hg)
  | @token _ g' u rest k ts hg' hl hr =>
    have := Lexed.token (p := p) (hg.append hg') hl (by simpa using hr)
    simpa using this

/-- A longer list with the same text in front has the next character behind its part. -/
theorem eq_append_cons_of_prefix {u w cs : List Char} {c : Char} (h : w <+: u ++ c :: cs)
    (hw : u.length < w.length) : ∃ v, w = u ++ c :: v := by
  obtain ⟨t, rfl⟩ : u <+: w :=
    List.prefix_of_prefix_length_le (List.prefix_append _ _) h (Nat.le_of_lt hw)
  rw [List.prefix_append_right_inj] at h
  cases t with
  | nil => simp at hw
  | cons b v =>
    obtain ⟨rfl, -⟩ := List.cons_prefix_cons.1 h
    exact ⟨v, rfl⟩

/-- A draft goes no further than the longest lexeme. -/
theorem Longest.extend_eq_none {k : TokenKind} {u rest : List Char} {c : Char} {d : Draft}
    (h : Longest k u (c :: rest)) (hd : d.Holds u) : d.extend c = none := by
  cases he : d.extend c with
  | none => rfl
  | some d' =>
    rcases Draft.holds_extend hd he with hd' | ⟨rfl, rfl⟩
    · obtain ⟨k', -, hl⟩ := Draft.finish_of_holds hd'
      have := h.longest hl ⟨rest, by simp⟩
      rw [List.length_append, List.length_singleton] at this
      omega
    · exact absurd ⟨rest, rfl⟩ h.noComment

/-- A draft that stops has reached the longest lexeme. -/
theorem longest_of_holds {d : Draft} {u cs : List Char} (hd : d.Holds u)
    (hn : ¬ ['/', '/'] <+: u ++ cs) : ∃ k v rest, u ++ cs = v ++ rest ∧ Longest k v rest := by
  induction cs generalizing d u with
  | nil =>
    obtain ⟨k, -, hl⟩ := Draft.finish_of_holds hd
    refine ⟨k, u, [], rfl, hl, hn, ?_⟩
    intro k' v _ hp
    simpa using hp.length_le
  | cons c cs ih =>
    cases he : d.extend c with
    | none =>
      obtain ⟨k, -, hl⟩ := Draft.finish_of_holds hd
      refine ⟨k, u, c :: cs, rfl, hl, hn, ?_⟩
      intro k' w hw hp
      apply Nat.le_of_not_lt
      intro hlt
      obtain ⟨v, rfl⟩ := eq_append_cons_of_prefix hp hlt
      obtain ⟨d', hd'⟩ := Draft.extend_of_lexeme hd hw
      rw [he] at hd'
      cases hd'
    | some d' =>
      rcases Draft.holds_extend hd he with hd' | ⟨rfl, rfl⟩
      · obtain ⟨k, v, rest, hs, hl⟩ := ih hd' (by simpa using hn)
        exact ⟨k, v, rest, by simpa using hs, hl⟩
      · exact absurd ⟨cs, rfl⟩ hn

/-- Where neither whitespace nor a comment begins, a longest lexeme stands. -/
theorem exists_longest {c : Char} {cs : List Char} (hc : isWhitespace c = false)
    (hn : ¬ ['/', '/'] <+: c :: cs) : ∃ k u rest, c :: cs = u ++ rest ∧ Longest k u rest :=
  longest_of_holds (Draft.holds_opening hc) hn

/-! ### Every text falls into tokens -/

/-- The end of the first line of a text, if there is one. -/
theorem exists_endOfLine (cs : List Char) : (∀ c ∈ cs, isEndOfLine c = false) ∨
    ∃ body e rest, cs = body ++ e :: rest ∧ (∀ c ∈ body, isEndOfLine c = false) ∧
      isEndOfLine e = true := by
  induction cs with
  | nil => exact Or.inl (by simp)
  | cons c cs ih =>
    cases hc : isEndOfLine c with
    | true => exact Or.inr ⟨[], c, cs, rfl, by simp, hc⟩
    | false =>
      rcases ih with ih | ⟨body, e, rest, rfl, hb, he⟩
      · exact Or.inl (by simpa [hc] using ih)
      · exact Or.inr ⟨c :: body, e, rest, rfl, by simpa [hc] using hb, he⟩

/-- **Every text falls into tokens.** -/
theorem exists_lexed (p : Position) (cs : List Char) : ∃ ts, Lexed p cs ts := by
  induction hn : cs.length using Nat.strongRecOn generalizing p cs with
  | ind n ih =>
    subst hn
    cases cs with
    | nil => exact ⟨[], .trail (.gap .nil)⟩
    | cons c cs =>
      by_cases hc : isWhitespace c = true
      · obtain ⟨ts, h⟩ := ih _ (Nat.lt_succ_self cs.length) (p.after c) cs rfl
        exact ⟨ts, h.append_gap (g := [c]) (.blank hc .nil)⟩
      by_cases hs : ['/', '/'] <+: c :: cs
      · obtain ⟨rest, hs⟩ := hs
        rw [← hs] at ih ⊢
        rcases exists_endOfLine rest with hb | ⟨body, e, rest, rfl, hb, he⟩
        · exact ⟨[], .trail (.comment (g := []) .nil hb)⟩
        · have hg : Gap ('/' :: '/' :: (body ++ [e])) := .comment hb he .nil
          have hlt : rest.length < ('/' :: '/' :: (body ++ e :: rest)).length := by
            simp only [List.length_cons, List.length_append]
            omega
          obtain ⟨ts, h⟩ := ih _ hlt (p.afterText ('/' :: '/' :: (body ++ [e]))) rest rfl
          refine ⟨ts, ?_⟩
          simpa using h.append_gap hg
      · obtain ⟨k, u, rest, hu, hl⟩ := exists_longest (by simpa using hc) hs
        rw [hu] at ih ⊢
        have hpos : 0 < u.length := List.length_pos_iff.2 hl.lexeme.ne_nil
        have hlt : rest.length < (u ++ rest).length := by
          rw [List.length_append]
          omega
        obtain ⟨ts, h⟩ := ih _ hlt (p.afterText u) rest rfl
        exact ⟨_, .token .nil hl h⟩

end KayLexer
