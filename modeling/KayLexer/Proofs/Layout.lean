import KayLexer.Proofs.Blanks
import KayLexer.Proofs.Scanner.Outlook

/-!
Lexemes laid out as a text. Where at least one blank stands between two lexemes, each of them is
the longest one at its place, whatever else the gaps around it hold. Main statement: scanning a
layout gives back the lexemes that were laid out.
-/

namespace KayLexer

open CharClass

/-! ### Layouts -/

/-- What may part two lexemes: a blank, and a gap behind it. -/
inductive Divider : List Char → Prop where
  | blank {c : Char} {g : List Char} : isWhitespace c = true → Gap g → Divider (c :: g)

/-- What may stand behind the last lexeme: nothing, or a blank and behind it a gap that a comment
may follow. -/
inductive Closing : List Char → Prop where
  | nil : Closing []
  | blank {c : Char} {g : List Char} : isWhitespace c = true → Trail g → Closing (c :: g)

/-- The gaps around and between a number of lexemes. -/
structure Layout (n : Nat) where
  lead : List Char
  dividers : List (List Char)
  closing : List Char
  gap_lead : Gap lead
  divider_of_mem : ∀ g ∈ dividers, Divider g
  length_dividers : dividers.length = n - 1
  closing_closing : Closing closing

/-- Texts one after the other, each but the last with the next one of some gaps behind it. -/
def weave : List (List Char) → List (List Char) → List Char
  | u :: us, g :: gs => u ++ (g ++ weave us gs)
  | us, _ => us.flatten

/-- The text of a layout. -/
def Layout.text {n : Nat} (y : Layout n) (us : List (List Char)) : List Char :=
  y.lead ++ (weave us y.dividers ++ y.closing)

/-- The kind of a token and its characters. -/
def Token.lexeme (t : Token) : TokenKind × List Char := (t.kind, t.text.toList)

/-! ### Lexemes in their layout -/

theorem Closing.trail {g : List Char} (h : Closing g) : Trail g := by
  cases h with
  | nil => exact .gap .nil
  | blank hc ht => exact ht.append (.blank hc .nil)

/-- In front of what closes a layout a lexeme is the longest one. -/
theorem Closing.longest {k : TokenKind} {u g : List Char} (h : Closing g) (hu : Lexeme k u) :
    Longest k u g := by
  cases h with
  | nil => exact hu.longest_nil
  | blank hc _ => exact hu.longest_nil.append_blank hc _

/-- In front of a divider a lexeme is the longest one. -/
theorem Divider.longest {k : TokenKind} {u g : List Char} (h : Divider g) (hu : Lexeme k u)
    (cs : List Char) : Longest k u (g ++ cs) := by
  cases h with
  | blank hc _ => exact hu.longest_nil.append_blank hc _

theorem Divider.gap {g : List Char} (h : Divider g) : Gap g := by
  cases h with
  | blank hc hg => exact .blank hc hg

/-- **Lexemes with dividers between them are the tokens that their text falls into.** -/
theorem exists_lexed_weave {ls : List (TokenKind × List Char)} {gs : List (List Char)}
    {g : List Char} (hls : ∀ l ∈ ls, Lexeme l.1 l.2) (hgs : ∀ g ∈ gs, Divider g)
    (hn : gs.length = ls.length - 1) (hg : Closing g) (p : Position) :
    ∃ ts, Lexed p (weave (ls.map Prod.snd) gs ++ g) ts ∧ ts.map Token.lexeme = ls := by
  induction ls generalizing gs p with
  | nil =>
    obtain rfl := List.eq_nil_of_length_eq_zero hn
    exact ⟨[], .trail hg.trail, rfl⟩
  | cons l ls ih =>
    obtain ⟨k, u⟩ := l
    obtain ⟨hu, hls⟩ := List.forall_mem_cons.1 hls
    cases gs with
    | nil =>
      -- the last lexeme
      have hlast : ls = [] := List.eq_nil_of_length_eq_zero hn.symm
      subst hlast
      have ht : Lexed (p.afterText ([] ++ u)) g [] := .trail hg.trail
      have h := Lexed.token .nil (hg.longest hu) ht
      exact ⟨_, by simpa [weave] using h, by simp [Token.lexeme]⟩
    | cons d gs =>
      obtain ⟨hd, hgs⟩ := List.forall_mem_cons.1 hgs
      have hlen : gs.length = ls.length - 1 := by
        simp only [List.length_cons] at hn
        omega
      obtain ⟨ts, ht, hts⟩ := ih hls hgs hlen ((p.afterText ([] ++ u)).afterText d)
      have h := Lexed.token .nil (hd.longest hu _) (ht.append_gap hd.gap)
      exact ⟨_, by simpa [weave] using h, by simp [Token.lexeme, hts]⟩

/-! ### Scanning a layout -/

/-- **Scanning undoes laying out.** -/
theorem Scanner.tokenize_layout {ls : List (TokenKind × List Char)}
    (hls : ∀ l ∈ ls, Lexeme l.1 l.2) (y : Layout ls.length) : ∃ ts p,
      (ofString (String.ofList (y.text (ls.map Prod.snd)))).tokenize.1 =
        .ok (ts ++ [.endOfFile p]) ∧ ts.map Token.lexeme = ls := by
  obtain ⟨ts, h, hts⟩ := exists_lexed_weave hls y.divider_of_mem y.length_dividers
    y.closing_closing (Position.start.afterText y.lead)
  have ht : Lexed .start (String.ofList (y.text (ls.map Prod.snd))).toList ts := by
    rw [String.toList_ofList]
    exact h.append_gap y.gap_lead
  exact ⟨ts, _, tokenize_ofString ht, hts⟩

/-- Gaps around two lexemes, with a comment in each of them. -/
def Layout.ofComments : Layout 2 where
  lead := ['/', '/', 'a', '\n']
  dividers := [[' ', '/', '/', 'b', '\r']]
  closing := [' ', '/', '/', 'c']
  gap_lead := @Gap.comment ['a'] [] '\n' (forall_mem_of_all (by decide)) (by decide) .nil
  divider_of_mem := by
    intro g hg
    rw [List.mem_singleton.1 hg]
    exact .blank (by decide)
      (@Gap.comment ['b'] [] '\r' (forall_mem_of_all (by decide)) (by decide) .nil)
  length_dividers := rfl
  closing_closing := .blank (by decide)
    (@Trail.comment [] ['c'] .nil (forall_mem_of_all (by decide)))

/-- A slash and a half of a doubled operator, each with a comment behind it. -/
theorem Scanner.tokenize_layout_ofComments :
    Layout.ofComments.text [['/'], ['&']] = "//a\n/ //b\r& //c".toList ∧
    (∀ l ∈ [(TokenKind.operator, ['/']), (.unrecognized, ['&'])], Lexeme l.1 l.2) ∧
    ∃ ts p, (ofString (String.ofList (Layout.ofComments.text [['/'], ['&']]))).tokenize.1 =
        .ok (ts ++ [.endOfFile p]) ∧
      ts.map Token.lexeme = [(.operator, ['/']), (.unrecognized, ['&'])] := by
  have hls : ∀ l ∈ [(TokenKind.operator, ['/']), (.unrecognized, ['&'])], Lexeme l.1 l.2 := by
    simp only [List.forall_mem_cons]
    exact ⟨.operator (by decide), .half (by decide), by simp⟩
  exact ⟨by decide, hls, tokenize_layout hls .ofComments⟩

end KayLexer
