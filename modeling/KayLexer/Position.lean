/-!
Positions in a source text: lines and columns counted from one, and how a character moves them.
-/

namespace KayLexer

/-- A line and a column. -/
structure Position where
  line : Int
  column : Int
  deriving DecidableEq

namespace Position

/-- The position of the first character of a text. -/
def start : Position := ⟨1, 1⟩

/-- The first column of the line below. -/
def nextLine (p : Position) : Position := ⟨p.line + 1, 1⟩

/-- The next column of the same line. -/
def nextColumn (p : Position) : Position := ⟨p.line, p.column + 1⟩

/-- The position behind the character `c`. Only a line feed starts a line; every other character,
a carriage return and a form feed among them, takes one column. -/
def after (p : Position) (c : Char) : Position := if c = '\n' then p.nextLine else p.nextColumn

/-- The position behind a text. -/
def afterText (p : Position) (cs : List Char) : Position := cs.foldl after p

/-- The position behind a string that counts as one character, whatever its length: only the line
feed itself starts a line. -/
def afterPiece (p : Position) (piece : String) : Position :=
  if piece = "\n" then p.nextLine else p.nextColumn

/-- A position and those behind each of some strings that count as one character. -/
def trail (p : Position) : List String → List Position
  | [] => [p]
  | piece :: pieces => p :: trail (p.afterPiece piece) pieces

/-- The line, a colon and the column. -/
def render (p : Position) : String := s!"{p.line}:{p.column}"

theorem after_newline (p : Position) : p.after '\n' = p.nextLine := rfl

theorem after_of_ne {c : Char} (h : c ≠ '\n') (p : Position) : p.after c = p.nextColumn :=
  if_neg h

@[simp] theorem afterText_nil (p : Position) : p.afterText [] = p := rfl

@[simp] theorem afterText_cons (p : Position) (c : Char) (cs : List Char) :
    p.afterText (c :: cs) = (p.after c).afterText cs := rfl

@[simp] theorem afterText_append (p : Position) (cs ds : List Char) :
    p.afterText (cs ++ ds) = (p.afterText cs).afterText ds :=
  List.foldl_append

theorem afterPiece_singleton (p : Position) (c : Char) :
    p.afterPiece (String.singleton c) = p.after c := by
  by_cases h : c = '\n'
  · subst h; rfl
  · have : String.singleton c ≠ "\n" := fun e => h (by simpa using congrArg String.toList e)
    rw [after_of_ne h, afterPiece, if_neg this]

end Position

end KayLexer
