import KayLexer.ByteStream
import KayLexer.Encoding.Decoder
import KayLexer.Position
import KayLexer.SourcePath

/-!
Failures of opening and of reading a source.
-/

namespace KayLexer

/-- A source file that could not be opened. -/
structure NotFound where
  path : SourcePath
  reason : OsError
  deriving DecidableEq

def NotFound.message (e : NotFound) : String :=
  "File not found: " ++ e.path.render ++ " (" ++ e.reason.summary ++ ")"

/-- Why no source was made. -/
inductive OpenError where
  | encoding (e : Encoding.NameError)
  /-- The path holds a zero character. -/
  | nulInPath
  | notFound (e : NotFound)
  deriving DecidableEq

def OpenError.message : OpenError → String
  | encoding e => e.message
  | nulInPath => "embedded null byte"
  | notFound e => e.message

/-- What the next character was lost to, where its position is known. -/
inductive UnreadableReason where
  | system (e : OsError)
  | malformed (m : Encoding.Malformed)
  deriving DecidableEq

def UnreadableReason.text : UnreadableReason → String
  | system e => e.text
  | malformed m => m.text

/-- A character that could not be read, with its position and the file it should have come from. -/
structure Unreadable where
  path : Option SourcePath
  position : Position
  reason : UnreadableReason
  deriving DecidableEq

def Unreadable.message (e : Unreadable) : String :=
  "Unable to read from " ++ (e.path.elim "<input>" SourcePath.render) ++ " at " ++
    e.position.render ++ ": " ++ e.reason.text

/-- Why a read of a source gave no answer. Only the first kind is a finding about the character
at hand; the others concern the source as a whole and carry no position. -/
inductive ReadError where
  | unreadable (e : Unreadable)
  | closed (medium : Medium)
  | missingByteOrderMark
  | undefinedEncoding
  deriving DecidableEq

def ReadError.message : ReadError → String
  | unreadable e => e.message
  | closed medium => medium.closedMessage
  | missingByteOrderMark => "UTF-16 stream does not start with BOM"
  | undefinedEncoding => "undefined encoding"

end KayLexer
