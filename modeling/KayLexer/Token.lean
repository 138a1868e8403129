import KayLexer.Position
import KayLexer.Text.Quoted

/-!
Tokens: a kind, the text as it stands in the source, and the position of its first character.
-/

namespace KayLexer

/-- The kinds of tokens. -/
inductive TokenKind where
  | keyword
  | identifier
  | literal
  | operator
  | separator
  | endOfFile
  | unrecognized
  deriving DecidableEq

namespace TokenKind

def all : List TokenKind :=
  [keyword, identifier, literal, operator, separator, endOfFile, unrecognized]

/-- The kind as it is written in front of a token. -/
def name : TokenKind → String
  | keyword => "Keyword"
  | identifier => "Identifier"
  | literal => "Literal"
  | operator => "Operator"
  | separator => "Separator"
  | endOfFile => "EndOfFile"
  | unrecognized => "Unrecognized"

/-- The kind of a name; the spelling has to be exact. -/
def ofName? (name : String) : Option TokenKind := all.find? (·.name = name)

/-- What is said of a text that names no kind. -/
def unknownMessage (name : String) : String :=
  Text.Quoted.quoted name ++ " is not a valid TokenKind"

theorem ofName?_name (k : TokenKind) : ofName? k.name = some k := by
  cases k <;> decide

end TokenKind

/-- A token of a source text. -/
structure Token where
  kind : TokenKind
  text : String
  position : Position
  deriving DecidableEq

namespace Token

/-- The token that stands for the end of the input. -/
def endOfFile (p : Position) : Token := ⟨.endOfFile, "EOF", p⟩

def isEndOfFile (t : Token) : Bool := t.kind = .endOfFile

/-- The kind and, in quotes, the text. Nothing in the text is escaped. -/
def render (t : Token) : String := t.kind.name ++ " \"" ++ t.text ++ "\""

/-- The tokens, one a line. -/
def renderLines (ts : List Token) : String := String.join (ts.map fun t => t.render ++ "\n")

@[simp] theorem isEndOfFile_endOfFile (p : Position) : (endOfFile p).isEndOfFile = true := rfl

end Token

end KayLexer
