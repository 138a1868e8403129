import KayLexer.Proofs.Source.Delivery

/-!
Sources that reading does not tell apart. What matters of a source to its reader is its position
and what its reads give, one after the other, with the positions between them. Main statement:
sources that deliver the same text from the same position, and are exhausted behind it, are alike.
-/

namespace KayLexer.Source

variable {s s' : Source}

/-- The sources stand at the same position, and however often they are read, the reads give the
same and leave them at the same positions. -/
def Alike (s s' : Source) : Prop := s.position = s'.position ∧ ∀ n, s.reads n = s'.reads n

/-- Sources that are alike give the same, and are alike behind it. -/
theorem Alike.read (h : s.Alike s') : s.read.1 = s'.read.1 ∧ s.read.2.Alike s'.read.2 := by
  have first := (List.cons.inj (h.2 1)).1
  obtain ⟨hr, hp⟩ := Prod.mk.inj first
  refine ⟨hr, hp, ?_⟩
  intro n
  exact (List.cons.inj (h.2 (n + 1))).2

theorem Alike.of_read (hp : s.position = s'.position) (hr : s.read.1 = s'.read.1)
    (h : s.read.2.Alike s'.read.2) : s.Alike s' := by
  refine ⟨hp, ?_⟩
  intro n
  cases n with
  | zero => rfl
  | succ n => rw [reads, reads, hr, h.1, h.2 n]

theorem Exhausted.alike (h : s.Exhausted) (h' : s'.Exhausted) (hp : s.position = s'.position) :
    s.Alike s' := by
  refine ⟨hp, ?_⟩
  intro n
  rw [h n, h' n, hp]

/-- **Sources that deliver the same text and nothing behind it are alike.** -/
theorem Delivers.alike {last last' : Source} {cs : List Char} (h : s.Delivers last cs)
    (h' : s'.Delivers last' cs) (hl : last.Exhausted) (hl' : last'.Exhausted)
    (hp : s.position = s'.position) : s.Alike s' := by
  induction cs generalizing s s' with
  | nil =>
    cases h
    cases h'
    exact hl.alike hl' hp
  | cons c cs ih =>
    have hp' : s.read.2.position = s'.read.2.position := by
      rw [position_read h.1, position_read h'.1, hp]
    exact .of_read hp (h.1.trans h'.1.symm) (ih h.2 h'.2 hp')

end KayLexer.Source
