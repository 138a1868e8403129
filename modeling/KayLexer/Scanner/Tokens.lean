import KayLexer.Scanner.Basic
import KayLexer.Source.Open

/-!
All tokens of a source, and scanners of files.
-/

namespace KayLexer.Scanner

/-- All tokens that are left, the end token last. An error loses the tokens before it. -/
def tokenize (s : Scanner) : Except ReadError (List Token) × Scanner :=
  match _h : s.nextToken with
  | (.error e, s') => (.error e, s')
  | (.ok t, s') =>
    if _ht : t.isEndOfFile then (.ok [t], s')
    else match s'.tokenize with
      | (.ok ts, s'') => (.ok (t :: ts), s'')
      | (.error e, s'') => (.error e, s'')
termination_by s.remaining
decreasing_by exact remaining_nextToken_lt _h (by simpa using _ht)

/-- All tokens that are left without the end token. -/
def tokens (s : Scanner) : Except ReadError (List Token) × Scanner :=
  (s.tokenize.1.map List.dropLast, s.tokenize.2)

/-- All tokens that are left as text, one a line. -/
def print (s : Scanner) : Except ReadError String × Scanner :=
  (s.tokenize.1.map Token.renderLines, s.tokenize.2)

/-- The next token, behind which the scanner is closed, also if there is none. -/
def closingNext (s : Scanner) : Except ReadError Token × Scanner :=
  (s.nextToken.1, s.nextToken.2.close)

/-- A character taken from the source without the scanner's knowledge. -/
def readSource (s : Scanner) : Except ReadError (Option Char) × Scanner :=
  match s.source with
  | some source => (source.read.1, { s with source := some source.read.2 })
  | none => (.ok none, s)

/-! ### Scanners of files -/

/-- A scanner of a file. A file that cannot be opened has no tokens, which only the log and the
scanner's `openError` tell from an empty file. `shown` is the path as the log shows it. -/
def ofPath (files : FileSystem) (path : SourcePath) (shown encoding : String)
    (registry : Encoding.Registry := .empty) : Except OpenError Scanner :=
  match ByteSource.openFile files path encoding registry with
  | .ok source =>
    .ok ((ofSource (.bytes source)).record .debug ("Opened '" ++ shown ++ "' for scanning."))
  | .error (.notFound e) => .ok ((absent e).record .warning ("File not found: " ++ shown))
  | .error e => .error e

end KayLexer.Scanner
