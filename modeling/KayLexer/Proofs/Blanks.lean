import KayLexer.Proofs.Lexing

/-!
Where blanks stand. Neither a lexeme nor the beginning of a comment holds a blank, so a longest
lexeme in front of a blank remains the longest, whatever stands behind the blank. Main statement: a
text that ends at an end of line falls into the same tokens in front of any other text.
-/

namespace KayLexer

open CharClass

/-! ### Lexemes in front of a blank -/

/-- What holds no blank and begins a text with a blank in it ends before the blank. -/
theorem prefix_of_blank {w cs ds : List Char} {c : Char} (hw : ∀ d ∈ w, isWhitespace d = false)
    (hc : isWhitespace c = true) (h : w <+: cs ++ c :: ds) : w <+: cs := by
  have hle : w.length ≤ cs.length := by
    apply Nat.le_of_not_lt
    intro hlt
    obtain ⟨v, rfl⟩ := eq_append_cons_of_prefix h hlt
    have hn := hw c (by simp)
    rw [hc] at hn
    cases hn
  exact List.prefix_of_prefix_length_le h (List.prefix_append _ _) hle

variable {k : TokenKind} {u rest : List Char} {c : Char}

/-- A lexeme is the longest one of its own text. -/
theorem Lexeme.longest_nil (h : Lexeme k u) : Longest k u [] := by
  refine ⟨h, ?_, ?_⟩
  · intro hp
    rw [List.append_nil] at hp
    rw [h.eq_slash (hp.subset List.mem_cons_self)] at hp
    exact absurd hp.length_le (by decide)
  · intro k' v _ hp
    rw [List.append_nil] at hp
    exact hp.length_le

/-- **A longest lexeme does not change with what stands behind a blank.** -/
theorem Longest.append_blank (h : Longest k u rest) (hc : isWhitespace c = true)
    (ds : List Char) : Longest k u (rest ++ c :: ds) := by
  refine ⟨h.lexeme, ?_, ?_⟩
  · intro hp
    rw [← List.append_assoc] at hp
    have hs : ∀ d ∈ ['/', '/'], isWhitespace d = false := forall_mem_of_all (by decide)
    exact h.noComment (prefix_of_blank hs hc hp)
  · intro k' v hv hp
    rw [← List.append_assoc] at hp
    exact h.longest hv (prefix_of_blank hv.isWhitespace hc hp)

/-! ### Texts in front of an end of line -/

/-- At the end of its line a comment is over, so that what ends a text is a gap there. -/
theorem Trail.append_endOfLine {g : List Char} (h : Trail g) (hc : isEndOfLine c = true) :
    Gap (g ++ [c]) := by
  cases h with
  | gap h => exact h.append (.blank (isWhitespace_of_isEndOfLine hc) .nil)
  | comment h hb =>
    have := h.append (.comment hb hc .nil)
    simpa using this

/-- **An end of line parts a text into two that fall into tokens each on its own.** -/
theorem Lexed.append_endOfLine {p : Position} {cs ds : List Char} {ts us : List Token}
    (h : Lexed p cs ts) (hc : isEndOfLine c = true)
    (h' : Lexed (p.afterText (cs ++ [c])) ds us) : Lexed p (cs ++ c :: ds) (ts ++ us) := by
  induction h with
  | trail ht =>
    have := h'.append_gap (ht.append_endOfLine hc)
    simpa using this
  | token hg hl _ ih =>
    have hu := hl.append_blank (isWhitespace_of_isEndOfLine hc) ds
    have := Lexed.token hg hu (ih (by simpa using h'))
    simpa using this

end KayLexer
