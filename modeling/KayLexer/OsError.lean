/-!
Failures that the operating system reports.
-/

namespace KayLexer

/-- A failure with a number and its description, or with a bare message. -/
inductive OsError where
  | numbered (errno : Int) (description : String)
  | plain (message : String)
  deriving DecidableEq

namespace OsError

/-- The whole text of a failure. -/
def text : OsError → String
  | numbered errno description => s!"[Errno {errno}] " ++ description
  | plain message => message

/-- The description alone, where there is one. -/
def summary (e : OsError) : String :=
  match e with
  | numbered _ description => if description = "" then e.text else description
  | plain message => message

/-! ### The failures of opening a file -/

def noSuchFile : OsError := numbered 2 "No such file or directory"
def notADirectory : OsError := numbered 20 "Not a directory"
def isADirectory : OsError := numbered 21 "Is a directory"
def nameTooLong : OsError := numbered 36 "File name too long"

end OsError

end KayLexer
