import KayLexer.Proofs.Blanks
import KayLexer.Proofs.Scanner.Outlook

/-!
Tokens of a text that stands behind another one. Where a text begins elsewhere than at the start,
its tokens are the same, and their positions are moved to where it begins. Main statement: two
texts with an end of line between them have the tokens of the one and then those of the other.
-/

namespace KayLexer

open CharClass

/-! ### Moved positions -/

namespace Position

/-- The position in a text, where the text begins at `base`. What stands in its first line
continues the line of the base; further lines have the columns of their own. -/
def rebase (base p : Position) : Position :=
  if p.line = 1 then ⟨base.line, base.column + p.column - 1⟩ else ⟨base.line + p.line - 1, p.column⟩

theorem rebase_start (base : Position) : base.rebase start = base := by
  simp [rebase, start]

theorem line_le_after (p : Position) (c : Char) : p.line ≤ (p.after c).line := by
  by_cases h : c = '\n'
  · subst h
    exact Int.le_add_one (Int.le_refl _)
  · rw [after_of_ne h]
    exact Int.le_refl _

theorem line_le_afterText (p : Position) (cs : List Char) : p.line ≤ (p.afterText cs).line := by
  induction cs generalizing p with
  | nil => exact Int.le_refl _
  | cons c cs ih => exact Int.le_trans (p.line_le_after c) (ih (p.after c))

variable {base p : Position}

theorem rebase_after (h : 1 ≤ p.line) (c : Char) :
    base.rebase (p.after c) = (base.rebase p).after c := by
  by_cases hc : c = '\n'
  · -- the line below is not the first one
    subst hc
    rw [after_newline, after_newline, rebase, rebase, nextLine, nextLine]
    split
    · next hl => simp only at hl; omega
    · split
      all_goals
        simp only [mk.injEq, and_true]
        omega
  · rw [after_of_ne hc, after_of_ne hc, rebase, rebase, nextColumn, nextColumn]
    split
    · simp only [mk.injEq, true_and]
      omega
    · rfl

theorem rebase_afterText (h : 1 ≤ p.line) (cs : List Char) :
    base.rebase (p.afterText cs) = (base.rebase p).afterText cs := by
  induction cs generalizing p with
  | nil => rfl
  | cons c cs ih =>
    rw [afterText_cons, afterText_cons, ← rebase_after h]
    exact ih (Int.le_trans h (p.line_le_after c))

end Position

/-! ### Moved tokens -/

/-- The token of a text, where the text begins at `base`. -/
def Token.rebase (base : Position) (t : Token) : Token :=
  { t with position := base.rebase t.position }

/-- **The tokens of a text move with it.** -/
theorem Lexed.rebase {p : Position} {cs : List Char} {ts : List Token} (h : Lexed p cs ts)
    (hp : 1 ≤ p.line) (base : Position) :
    Lexed (base.rebase p) cs (ts.map (.rebase base)) := by
  induction h with
  | trail ht => exact .trail ht
  | @token p g u rest k ts hg hl _ ih =>
    have hr := ih (Int.le_trans hp (p.line_le_afterText (g ++ u)))
    rw [Position.rebase_afterText hp] at hr
    have := Lexed.token hg hl hr
    rwa [← Position.rebase_afterText hp] at this

/-! ### Texts one after the other -/

open Position (start)

/-- **An end of line parts a text into two that are scanned each on its own.** -/
theorem Scanner.tokenize_append_endOfLine (a b : String) {c : Char}
    (hc : c ∈ ['\r', '\n', '\x0c']) : ∃ ts us,
      (ofString a).tokenize.1 = .ok (ts ++ [.endOfFile (start.afterText a.toList)]) ∧
      (ofString b).tokenize.1 = .ok us ∧
      (ofString (a ++ String.singleton c ++ b)).tokenize.1 =
        .ok (ts ++ us.map (.rebase (start.afterText (a.toList ++ [c])))) := by
  have hline : isEndOfLine c = true := by simpa [isEndOfLine] using hc
  obtain ⟨ts, hts⟩ := exists_lexed start a.toList
  obtain ⟨us, hus⟩ := exists_lexed start b.toList
  have hstart : 1 ≤ start.line := Int.le_refl _
  have hb := hus.rebase hstart (start.afterText (a.toList ++ [c]))
  rw [Position.rebase_start] at hb
  have htext : (a ++ String.singleton c ++ b).toList = a.toList ++ c :: b.toList := by simp
  have hall := hts.append_endOfLine hline hb
  rw [← htext] at hall
  refine ⟨ts, _, tokenize_ofString hts, tokenize_ofString hus, ?_⟩
  rw [tokenize_ofString hall, htext]
  simp [Token.rebase, Token.endOfFile, Position.rebase_afterText hstart, Position.rebase_start]

/-- A carriage return between the halves of an operator, which takes a column and no line. -/
theorem Scanner.tokenize_append_endOfLine_half : '\r' ∈ ['\r', '\n', '\x0c'] ∧
    (ofString ("x <" ++ String.singleton '\r' ++ "= y//z\nw")).tokenize.1 =
      .ok [⟨.identifier, "x", ⟨1, 1⟩⟩, ⟨.operator, "<", ⟨1, 3⟩⟩, ⟨.operator, "=", ⟨1, 5⟩⟩,
        ⟨.identifier, "y", ⟨1, 7⟩⟩, ⟨.identifier, "w", ⟨2, 1⟩⟩, .endOfFile ⟨2, 2⟩] := by
  obtain ⟨ts, us, hts, hus, h⟩ :=
    tokenize_append_endOfLine "x <" "= y//z\nw" (c := '\r') (by decide)
  have ha : (ofString "x <").tokenize.1 =
      .ok ([⟨.identifier, "x", ⟨1, 1⟩⟩, ⟨.operator, "<", ⟨1, 3⟩⟩] ++ [.endOfFile ⟨1, 4⟩]) := by
    with_unfolding_all rfl
  have hb : (ofString "= y//z\nw").tokenize.1 =
      .ok [⟨.operator, "=", ⟨1, 1⟩⟩, ⟨.identifier, "y", ⟨1, 3⟩⟩, ⟨.identifier, "w", ⟨2, 1⟩⟩,
        .endOfFile ⟨2, 2⟩] := by
    with_unfolding_all rfl
  rw [ha] at hts
  rw [hb] at hus
  obtain ⟨rfl, -⟩ := List.append_inj' (Except.ok.inj hts) rfl
  obtain rfl := Except.ok.inj hus
  exact ⟨by decide, h⟩

end KayLexer
