import KayLexer.Proofs.Blanks
import KayLexer.Proofs.Fronts
import KayLexer.Proofs.Scanner.Outlook

/-!
Carriage returns in front of line feeds. A carriage return is a blank, it ends a token and a
comment, and the line feed behind it takes back the column that it took. Main statement: lines that
end in a carriage return and a line feed have the tokens of lines that end in the line feed alone.
-/

namespace KayLexer

open CharClass

/-- The text with a carriage return in front of each line feed. -/
def withReturns (cs : List Char) : List Char :=
  cs.flatMap fun c => if c = '\n' then ['\r', '\n'] else [c]

theorem withReturns_newline (cs : List Char) :
    withReturns ('\n' :: cs) = '\r' :: '\n' :: withReturns cs := rfl

theorem withReturns_of_ne {c : Char} (h : c ≠ '\n') (cs : List Char) :
    withReturns (c :: cs) = c :: withReturns cs := by
  rw [withReturns, List.flatMap_cons, if_neg h]
  rfl

theorem withReturns_append (cs ds : List Char) :
    withReturns (cs ++ ds) = withReturns cs ++ withReturns ds := List.flatMap_append

theorem withReturns_eq_self {cs : List Char} (h : '\n' ∉ cs) : withReturns cs = cs := by
  induction cs with
  | nil => rfl
  | cons c cs ih =>
    obtain ⟨hc, hcs⟩ := List.ne_and_not_mem_of_not_mem_cons h
    rw [withReturns_of_ne (Ne.symm hc), ih hcs]

/-- The column that a carriage return takes does not count behind the line feed. -/
theorem Position.afterText_withReturns (p : Position) (cs : List Char) :
    p.afterText (withReturns cs) = p.afterText cs := by
  induction cs generalizing p with
  | nil => rfl
  | cons c cs ih =>
    by_cases hc : c = '\n'
    · subst hc
      have hline : (p.after '\r').after '\n' = p.after '\n' := rfl
      rw [withReturns_newline, afterText_cons, afterText_cons, hline, ih, afterText_cons]
    · rw [withReturns_of_ne hc, afterText_cons, ih, afterText_cons]

/-! ### Pieces of a text -/

theorem newline_notMem {cs : List Char} (h : ∀ c ∈ cs, isEndOfLine c = false) : '\n' ∉ cs := by
  intro hm
  exact absurd (h '\n' hm) (by decide)

/-- A line feed and the gap behind it are a gap. -/
theorem Gap.newline {g : List Char} (h : Gap g) : Gap ('\n' :: g) := .blank (by decide) h

theorem Gap.withReturns {g : List Char} (h : Gap g) : Gap (withReturns g) := by
  induction h with
  | nil => exact .nil
  | @blank c g hc _ ih =>
    by_cases hn : c = '\n'
    · subst hn
      exact .blank (by decide) ih.newline
    · rw [withReturns_of_ne hn]
      exact .blank hc ih
  | @comment body g e hb he _ ih =>
    have hbody := withReturns_eq_self (newline_notMem hb)
    rw [withReturns_of_ne (by decide), withReturns_of_ne (by decide), withReturns_append, hbody]
    by_cases hn : e = '\n'
    · -- the comment is over at the carriage return already
      subst hn
      exact .comment hb (by decide) ih.newline
    · rw [withReturns_of_ne hn]
      exact .comment hb he ih

theorem Trail.withReturns {g : List Char} (h : Trail g) : Trail (withReturns g) := by
  cases h with
  | gap h => exact .gap h.withReturns
  | comment h hb =>
    have hbody := withReturns_eq_self (newline_notMem hb)
    rw [withReturns_append, withReturns_of_ne (by decide), withReturns_of_ne (by decide), hbody]
    exact .comment h.withReturns hb

theorem Longest.withReturns {k : TokenKind} {u rest : List Char} (h : Longest k u rest) :
    Longest k u (withReturns rest) := by
  cases rest with
  | nil => exact h
  | cons c rest =>
    by_cases hn : c = '\n'
    · -- a lexeme ends before a blank, whichever it is
      subst hn
      exact h.lexeme.longest_nil.append_blank (by decide) _
    · rw [withReturns_of_ne hn]
      exact h.of_head rfl

/-- **A text falls into the same tokens with carriage returns in front of its line feeds.** -/
theorem Lexed.withReturns {p : Position} {cs : List Char} {ts : List Token} (h : Lexed p cs ts) :
    Lexed p (withReturns cs) ts := by
  induction h with
  | trail ht => exact .trail ht.withReturns
  | @token p g u rest k ts hg hl _ ih =>
    have hp := p.afterText_withReturns g
    rw [Position.afterText_append, ← hp, ← Position.afterText_append] at ih
    have := Lexed.token hg.withReturns hl.withReturns ih
    rw [hp] at this
    rwa [withReturns_append, withReturns_append, withReturns_eq_self hl.lexeme.newline_notMem]

/-- **Line endings do not matter.** -/
theorem Scanner.tokenize_withReturns (text : String) : ∃ ts : List Token,
    (ofString text).tokenize.1 = .ok ts ∧
    (ofString (String.ofList (withReturns text.toList))).tokenize.1 = .ok ts := by
  obtain ⟨ts, h⟩ := exists_lexed .start text.toList
  have hlist : (String.ofList (withReturns text.toList)).toList = withReturns text.toList :=
    String.toList_ofList
  refine ⟨_, tokenize_ofString h, ?_⟩
  rw [tokenize_ofString (hlist.symm ▸ h.withReturns), hlist, Position.afterText_withReturns]

end KayLexer
