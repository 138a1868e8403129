import KayLexer.Position

/-!
Sources over a text that is at hand.
-/

namespace KayLexer

/-- What is still to be read of a text, the position of its first character, and how often a
character was asked for. -/
structure TextSource where
  rest : List Char
  position : Position
  reads : Nat

namespace TextSource

/-- The source of a whole text. -/
def ofString (text : String) : TextSource := ⟨text.toList, .start, 0⟩

/-- The next character, or `none` behind the last one. -/
def read (s : TextSource) : Option Char × TextSource :=
  match s.rest with
  | [] => (none, { s with reads := s.reads + 1 })
  | c :: cs => (some c, ⟨cs, s.position.after c, s.reads + 1⟩)

theorem read_nil {s : TextSource} (h : s.rest = []) :
    s.read = (none, { s with reads := s.reads + 1 }) := by
  simp [read, h]

theorem read_cons {s : TextSource} {c : Char} {cs : List Char} (h : s.rest = c :: cs) :
    s.read = (some c, ⟨cs, s.position.after c, s.reads + 1⟩) := by
  simp [read, h]

end TextSource

end KayLexer
