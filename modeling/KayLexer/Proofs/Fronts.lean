import KayLexer.Proofs.Tokenization

/-!
Fronts of texts. Where a token ends is settled by the one character behind it, so the tokens in
front of a character are known before anything else of the text is. Main statement: whatever text
goes on with that character has these tokens, and behind them those of the rest.
-/

namespace KayLexer

open Position (start)

/-- **A longest lexeme depends on the one character behind it only.** -/
theorem Longest.of_head {k : TokenKind} {u rest rest' : List Char} (h : Longest k u rest)
    (hr : rest'.head? = rest.head?) : Longest k u rest' := by
  cases rest' with
  | nil =>
    obtain rfl : rest = [] := List.head?_eq_none_iff.1 hr.symm
    exact h
  | cons c rest' =>
    obtain ⟨cs, rfl⟩ := List.head?_eq_some_iff.1 hr.symm
    obtain ⟨b, v, rfl⟩ := List.exists_cons_of_ne_nil h.lexeme.ne_nil
    refine ⟨h.lexeme, ?_, ?_⟩
    · intro hp
      -- two slashes are no longer than the lexeme and the character behind it
      have hle : ['/', '/'] <+: (b :: v) ++ [c] := by
        refine List.prefix_of_prefix_length_le hp ⟨rest', by simp⟩ ?_
        simp
      exact h.noComment (hle.trans ⟨cs, by simp⟩)
    · intro k' w hw hp
      apply Nat.le_of_not_lt
      intro hlt
      obtain ⟨w, rfl⟩ := eq_append_cons_of_prefix hp hlt
      obtain ⟨d, -, hd, -⟩ := Draft.opening_of_lexeme h.lexeme
      obtain ⟨d', he⟩ := Draft.extend_of_lexeme hd hw
      rw [h.extend_eq_none hd] at he
      cases he

/-- What stands behind a lexeme does not change how the text begins. -/
theorem Lexeme.head?_append {k : TokenKind} {u : List Char} (h : Lexeme k u)
    (g rest : List Char) : (g ++ (u ++ rest)).head? = (g ++ u).head? := by
  obtain ⟨c, v, hv⟩ : ∃ c v, g ++ u = c :: v :=
    List.exists_cons_of_ne_nil (by simp [h.ne_nil])
  rw [← List.append_assoc, hv]
  rfl

/-- The text `pre` falls into the tokens `ts`, the last of which ends it, wherever it is followed by
`next`, a character or the end of the text. -/
inductive Front : List Char → Option Char → List Token → Prop where
  | nil {next : Option Char} : Front [] next []
  | token {pre g u rest : List Char} {k : TokenKind} {ts : List Token} :
      Front pre (g ++ u).head? ts → Gap g → Longest k u rest →
      Front (pre ++ (g ++ u)) rest.head? (ts ++ [tokenBehind pre g u k])

namespace Front

variable {pre rest : List Char} {next : Option Char} {ts us : List Token} {t : Token}

/-- **The tokens of a front stay, whatever the text goes on with behind the next character.** -/
theorem lexed (h : Front pre next ts) (hr : rest.head? = next)
    (hl : Lexed (start.afterText pre) rest us) : Lexed start (pre ++ rest) (ts ++ us) := by
  induction h generalizing rest us with
  | nil => exact hl
  | @token pre g u _ k ts _ hg hu ih =>
    have hl' : Lexed (start.afterText pre) (g ++ (u ++ rest)) (tokenBehind pre g u k :: us) :=
      .token hg (hu.of_head hr) (by simpa using hl)
    simpa using ih (hu.lexeme.head?_append g rest) hl'

/-- The last token of a front ends it. -/
theorem stop (h : Front pre next (ts ++ [t])) (rest : List Char) :
    t.stop (pre ++ rest) = pre.length := by
  generalize hts : ts ++ [t] = us at h
  cases h with
  | nil => simp at hts
  | @token pre g u _ k ts' _ _ _ =>
    obtain ⟨-, ht⟩ := List.append_inj' hts rfl
    obtain rfl : t = tokenBehind pre g u k := by simpa using ht
    rw [List.append_assoc, List.append_assoc, stop_tokenBehind]
    simp only [List.length_append]
    omega

/-- The tokens of a front stand in every text that goes on with the next character. -/
theorem standsIn (h : Front pre next ts) (hr : rest.head? = next) :
    ∀ t ∈ ts, t.StandsIn (pre ++ rest) := by
  intro t ht
  obtain ⟨us, hl⟩ := exists_lexed (start.afterText pre) rest
  exact ((h.lexed hr hl).forall_mem [] t (List.mem_append_left us ht)).1

end Front

end KayLexer
