import KayLexer.Scanner.Tokens
import KayLexer.Settings

/-!
The command that prints the tokens of one source file: its messages, its log and its exit code.
-/

namespace KayLexer

/-- An error that the command has no exit code for. -/
inductive CommandFault where
  | opening (e : OpenError)
  | reading (e : ReadError)
  deriving DecidableEq

def CommandFault.message : CommandFault → String
  | opening e => e.message
  | reading e => e.message

/-- A finished run. -/
structure CommandRun where
  exit : Except CommandFault Nat
  output : String
  errors : String
  /-- The threshold of the log at the end. -/
  threshold : Nat
  /-- The scanner of the file at the end, if one was made. -/
  scanner : Option Scanner

namespace CommandRun

def usage : String := "Usage: kayscan <source file>\n"

/-- A run that ends before anything is scanned. -/
def refused (errors : String) : CommandRun := ⟨.ok 2, "", errors, LogThreshold.standard, none⟩

/-- What the command adds to the log where a character of the file `path` could not be read. -/
def unreadableRecord (path : String) (e : Unreadable) : LogRecord :=
  ⟨.error, .command, "Unable to scan '" ++ path ++ "': " ++ e.reason.text⟩

/-- Prints the tokens of a scanner, all of them or none, and closes it. -/
def ofScanner (path : String) (threshold : Nat) (scanner : Scanner) : CommandRun :=
  let (r, scanner) := scanner.print
  let shown := LogRecord.renderFrom threshold
  let scanner := scanner.close
  match r with
  | .ok output => ⟨.ok 0, output, shown scanner.log, threshold, scanner⟩
  | .error (.unreadable e) =>
    ⟨.ok 1, "", shown (scanner.log ++ [unreadableRecord path e]), threshold, scanner⟩
  | .error e => ⟨.error (.reading e), "", shown scanner.log, threshold, scanner⟩

end CommandRun

/-- Runs the command with its arguments, its environment, what its settings file says, the files,
and the encodings that it knows by further names. A file that cannot be opened counts as one without
tokens. -/
def runCommand (args : List String) (env : Environment) (settingsFile : List (String × String))
    (files : FileSystem) (registry : Encoding.Registry := .empty) : CommandRun :=
  match args with
  | [path] =>
    match Settings.ofEnvironment (env.load settingsFile) registry with
    | .error e => .refused ("Invalid configuration: " ++ e.message ++ "\n")
    | .ok settings =>
      match Scanner.ofPath files (.ofString path) path settings.sourceEncoding registry with
      | .ok scanner => .ofScanner path settings.logThreshold scanner
      | .error e => ⟨.error (.opening e), "", "", settings.logThreshold, none⟩
  | _ => .refused CommandRun.usage

end KayLexer
