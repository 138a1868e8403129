import KayLexer.CharClass
import KayLexer.Token

/-!
Drafts: what the characters taken since the last token amount to. Each character either extends
the draft or leaves it finished; `extend` and `finish` are the whole lexical grammar of KAY.
-/

namespace KayLexer

/-- What the characters taken so far amount to. -/
inductive Draft where
  /-- Nothing but whitespace and whole comments. -/
  | gap
  /-- Inside a comment. -/
  | comment
  /-- A slash, which a second slash makes a comment. -/
  | slash
  | word (text : String)
  | number (text : String)
  /-- An operator that an equals sign may extend. -/
  | extensible (c : Char)
  /-- Half of an operator that is only valid doubled. -/
  | half (c : Char)
  /-- A token that no character extends. -/
  | whole (kind : TokenKind) (text : String)
  /-- A run of characters that begin no token of the language. -/
  | unrecognized (text : String)

namespace Draft

def keywords : List String := ["if", "else", "while", "integer", "bool", "main"]

def booleans : List String := ["True", "False"]

/-- A word is an identifier unless the language reserves it. -/
def wordKind (text : String) : TokenKind :=
  if text ∈ keywords then .keyword else if text ∈ booleans then .literal else .identifier

/-- What a character begins where a token can begin. -/
def opening (c : Char) : Draft :=
  if CharClass.isWhitespace c then gap
  else if c = '/' then slash
  else if c = ':' || CharClass.takesEquals c then extensible c
  else if CharClass.isDoubledOnly c then half c
  else if CharClass.isOperatorStart c then whole .operator (String.singleton c)
  else if CharClass.isSeparator c then whole .separator (String.singleton c)
  else if CharClass.isLetter c then word (String.singleton c)
  else if CharClass.isDigit c then number (String.singleton c)
  else unrecognized (String.singleton c)

/-- The draft with the character `c` taken, or `none` if it is finished before `c`. A comment gives
way to the gap behind it at the end of its line. -/
def extend : Draft → Char → Option Draft
  | gap, c => some (opening c)
  | comment, c => some (if CharClass.isEndOfLine c then gap else comment)
  | slash, c => if c = '/' then some comment else none
  | word text, c =>
    if CharClass.isLetter c || CharClass.isDigit c then some (word (text.push c)) else none
  | number text, c => if CharClass.isDigit c then some (number (text.push c)) else none
  | extensible d, c => if c = '=' then some (whole .operator (String.ofList [d, c])) else none
  | half d, c => if c = d then some (whole .operator (String.ofList [d, c])) else none
  | whole _ _, _ => none
  | unrecognized text, c =>
    if CharClass.isEndOfToken c then none else some (unrecognized (text.push c))

/-- The kind and text of a finished draft; a gap and a comment are no token. -/
def finish : Draft → Option (TokenKind × String)
  | gap => none
  | comment => none
  | slash => some (.operator, "/")
  | word text => some (wordKind text, text)
  | number text => some (.literal, text)
  | extensible c => some (.operator, String.singleton c)
  | half c => some (.unrecognized, String.singleton c)
  | whole kind text => some (kind, text)
  | unrecognized text => some (.unrecognized, text)

/-- Between tokens, where the next character may be the first of one. -/
def isGap : Draft → Bool
  | gap => true
  | _ => false

/-- The token of a finished draft that began at `start`. Gaps and comments only finish where the
input ends, and stand for that end. -/
def token (d : Draft) (start finish : Position) : Token :=
  match d.finish with
  | some (kind, text) => ⟨kind, text, start⟩
  | none => Token.endOfFile finish

end Draft

end KayLexer
