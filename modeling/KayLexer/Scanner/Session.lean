import KayLexer.Scanner.Tokens

/-!
Sessions: a scanner that is used in several ways at once. Whatever asks for a token, one of several
iterations too, gets the next one of the same scanner.
-/

namespace KayLexer

/-- An iteration over the tokens. It is over for good after the last token and after an error. -/
inductive Iteration where
  | running
  | over
  deriving DecidableEq

/-- A way to use the scanner. -/
inductive SessionStep where
  | next
  | tokenize
  /-- A new iteration, run to its end. -/
  | list
  /-- A new iteration, not yet begun. -/
  | iterate
  /-- The next token of an iteration, by its number. -/
  | resume (index : Nat)
  | readChar
  | openError
  | close
  /-- One token, and closing. -/
  | closingNext
  | print

/-- What a step gives. -/
inductive SessionAnswer where
  | token (t : Token)
  | tokens (ts : List Token)
  | enteredToken (t : Token)
  | char (c : Option Char)
  | output (s : String)
  | openError (e : Option NotFound)
  | done
  /-- The iteration is over. -/
  | stop

/-- A scanner with its iterations, the oldest first. -/
structure Session where
  scanner : Scanner
  iterations : List Iteration

namespace Session

/-- The session of a scanner, with one iteration that has not begun. -/
def ofScanner (s : Scanner) : Session := ⟨s, [.running]⟩

/-- The outcome of a step that leaves the iterations alone. -/
def answer {α : Type} (s : Session) (f : α → SessionAnswer) (r : Except ReadError α × Scanner) :
    Except ReadError SessionAnswer × Session :=
  (r.1.map f, { s with scanner := r.2 })

/-- The next token of an iteration. One that is over does not touch the scanner. -/
def resume (s : Session) (index : Nat) : Except ReadError SessionAnswer × Session :=
  match s.iterations[index]? with
  | some .running =>
    let (r, scanner) := s.scanner.nextToken
    let ended : Session := ⟨scanner, s.iterations.set index .over⟩
    match r with
    | .ok t =>
      if t.isEndOfFile then (.ok .stop, ended) else (.ok (.token t), { s with scanner })
    | .error e => (.error e, ended)
  | _ => (.ok .stop, s)

/-- One step. -/
def step (s : Session) : SessionStep → Except ReadError SessionAnswer × Session
  | .next => s.answer .token s.scanner.nextToken
  | .tokenize => s.answer .tokens s.scanner.tokenize
  | .list => s.answer .tokens s.scanner.tokens
  | .iterate => (.ok .done, { s with iterations := s.iterations ++ [.running] })
  | .resume index => s.resume index
  | .readChar => s.answer .char s.scanner.readSource
  | .openError => (.ok (.openError s.scanner.openError), s)
  | .close => (.ok .done, { s with scanner := s.scanner.close })
  | .closingNext => s.answer .enteredToken s.scanner.closingNext
  | .print => s.answer .output s.scanner.print

end Session

end KayLexer
