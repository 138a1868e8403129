import KayLexer.Token

/-!
Positions as places in a text. Every character moves the position forward in the order of lines
and columns, so a position stands for at most one offset of a text, and the offset can be found
from the position alone.
-/

namespace KayLexer

namespace Position

/-! ### The order of positions -/

/-- The order in which positions come in a text: by line, then by column. -/
def Before (p q : Position) : Prop := p.line < q.line ∨ p.line = q.line ∧ p.column < q.column

theorem Before.ne {p q : Position} (h : p.Before q) : p ≠ q := by
  rintro rfl
  rcases h with h | ⟨-, h⟩
  · exact absurd h (Int.lt_irrefl _)
  · exact absurd h (Int.lt_irrefl _)

theorem Before.trans {p q r : Position} (h₁ : p.Before q) (h₂ : q.Before r) : p.Before r := by
  unfold Before at *
  omega

theorem before_after (p : Position) (c : Char) : p.Before (p.after c) := by
  by_cases h : c = '\n'
  · subst h
    exact Or.inl (Int.lt_add_one_of_le (Int.le_refl _))
  · rw [after_of_ne h]
    exact Or.inr ⟨rfl, Int.lt_add_one_of_le (Int.le_refl _)⟩

theorem before_afterText (p : Position) {cs : List Char} (h : cs ≠ []) :
    p.Before (p.afterText cs) := by
  induction cs generalizing p with
  | nil => exact absurd rfl h
  | cons c cs ih =>
    rw [afterText_cons]
    by_cases hc : cs = []
    · subst hc
      exact p.before_after c
    · exact (p.before_after c).trans (ih _ hc)

/-! ### Offsets -/

/-- The offset of the position `p` in a text whose first character stands at `q`. -/
def offsetFrom (q p : Position) : List Char → Nat
  | [] => 0
  | c :: cs => if q = p then 0 else offsetFrom (q.after c) p cs + 1

/-- How many characters of a text stand before the position `p`. -/
def offsetIn (p : Position) (cs : List Char) : Nat := offsetFrom start p cs

theorem offsetFrom_afterText (q : Position) (cs ds : List Char) :
    offsetFrom q (q.afterText cs) (cs ++ ds) = cs.length := by
  induction cs generalizing q with
  | nil => cases ds <;> simp [offsetFrom]
  | cons c cs ih =>
    have hne : q ≠ q.afterText (c :: cs) := (q.before_afterText (List.cons_ne_nil c cs)).ne
    rw [List.cons_append, offsetFrom, if_neg hne, afterText_cons, ih, List.length_cons]

theorem offsetIn_afterText (cs ds : List Char) :
    (start.afterText cs).offsetIn (cs ++ ds) = cs.length :=
  offsetFrom_afterText start cs ds

/-- **A position divides a text in one way only.** -/
theorem append_inj {cs cs' ds ds' : List Char} (h : cs ++ ds = cs' ++ ds')
    (hp : start.afterText cs = start.afterText cs') : cs = cs' ∧ ds = ds' := by
  apply List.append_inj h
  rw [← offsetIn_afterText cs ds, hp, h, offsetIn_afterText]

end Position

namespace Token

/-- The offset in a text at which a token begins, by its position. -/
def offset (t : Token) (cs : List Char) : Nat := t.position.offsetIn cs

/-- The offset behind the last character of a token. -/
def stop (t : Token) (cs : List Char) : Nat := t.offset cs + t.text.length

/-- Whether the character at the offset `i` of a text is one of the token's. -/
def Covers (t : Token) (cs : List Char) (i : Nat) : Prop := t.offset cs ≤ i ∧ i < t.stop cs

end Token

end KayLexer
