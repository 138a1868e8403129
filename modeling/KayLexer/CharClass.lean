/-!
The character classes of the KAY language. Letters and digits are those of ASCII; every character
that is neither one of them nor listed here can only stand in an unrecognized run.
-/

namespace KayLexer

/-- The classes a character can be in. A character may be in several, or in none. -/
inductive CharClass where
  | whitespace
  | endOfLine
  | letter
  | digit
  | operatorStart
  | separator
  | endOfToken

namespace CharClass

/-! ### Classes of characters -/

def isWhitespace (c : Char) : Bool := c ∈ [' ', '\t', '\r', '\n', '\x0c']

/-- The characters a comment stops at. All of them are whitespace. -/
def isEndOfLine (c : Char) : Bool := c ∈ ['\r', '\n', '\x0c']

def isLetter (c : Char) : Bool := c.isAlpha

def isDigit (c : Char) : Bool := c.isDigit

/-- The colon is not among them: it begins an operator but does not end a token before it. -/
def isOperatorStart (c : Char) : Bool :=
  c ∈ ['+', '-', '*', '/', '%', '=', '<', '>', '!', '&', '|']

def isSeparator (c : Char) : Bool := c ∈ ['(', ')', '\x7b', '\x7d', ';', ',']

/-- The characters at which an unrecognized run stops. -/
def isEndOfToken (c : Char) : Bool := isWhitespace c || isOperatorStart c || isSeparator c

/-- Operators that a following equals sign extends. The colon is treated like them. -/
def takesEquals (c : Char) : Bool := c ∈ ['<', '>', '=', '!']

/-- Operators that are only valid when doubled. -/
def isDoubledOnly (c : Char) : Bool := c ∈ ['&', '|']

theorem isWhitespace_of_isEndOfLine {c : Char} (h : isEndOfLine c) : isWhitespace c := by
  simp only [isEndOfLine, isWhitespace, List.mem_cons, List.not_mem_nil, decide_eq_true_eq] at h ⊢
  grind

/-! ### Classes of strings -/

/-- All classes, in the order in which they are listed. -/
def all : List CharClass :=
  [whitespace, endOfLine, letter, digit, operatorStart, separator, endOfToken]

/-- The class as a predicate on characters. -/
def test : CharClass → Char → Bool
  | whitespace => isWhitespace
  | endOfLine => isEndOfLine
  | letter => isLetter
  | digit => isDigit
  | operatorStart => isOperatorStart
  | separator => isSeparator
  | endOfToken => isEndOfToken

/-- The class of a string. A string of letters is a letter and a string of digits a digit; the
other classes hold single characters only. -/
def testString (k : CharClass) (s : String) : Bool :=
  match k, s.toList with
  | _, [] => false
  | _, [c] => k.test c
  | letter, cs => cs.all isLetter
  | digit, cs => cs.all isDigit
  | _, _ => false

/-- The class of what was read: the end of the input ends a token and is in no other class. -/
def testRead (k : CharClass) : Option String → Bool
  | some s => k.testString s
  | none => k matches endOfToken

/-- The classes of what was read. -/
def classify (read : Option String) : List CharClass := all.filter (·.testRead read)

end CharClass

end KayLexer
