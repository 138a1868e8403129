/-!
Log records and the thresholds that decide which of them are shown.
-/

namespace KayLexer

/-- How serious a record is. -/
inductive Severity where
  | debug
  | warning
  | error
  deriving DecidableEq

namespace Severity

def name : Severity → String
  | debug => "DEBUG"
  | warning => "WARNING"
  | error => "ERROR"

/-- The rank that a threshold is compared with. -/
def rank : Severity → Nat
  | debug => 10
  | warning => 30
  | error => 40

end Severity

/-- Who writes a record. -/
inductive LogChannel where
  | scanner
  | command
  deriving DecidableEq

def LogChannel.name : LogChannel → String
  | scanner => "kayscan.scanner.scanner"
  | command => "kayscan.demo"

/-- A record of the log. -/
structure LogRecord where
  severity : Severity
  channel : LogChannel
  message : String
  deriving DecidableEq

namespace LogRecord

/-- The record as a line, without its end. -/
def render (r : LogRecord) : String :=
  r.severity.name ++ ":" ++ r.channel.name ++ ":" ++ r.message

/-- The lines of the records that reach a threshold. -/
def renderFrom (threshold : Nat) (records : List LogRecord) : String :=
  String.join ((records.filter (threshold ≤ ·.severity.rank)).map fun r => r.render ++ "\n")

end LogRecord

namespace LogThreshold

/-- Warnings and worse. -/
def standard : Nat := 30

/-- The names of thresholds. -/
def table : List (String × Nat) :=
  [("CRITICAL", 50), ("FATAL", 50), ("ERROR", 40), ("WARN", 30), ("WARNING", 30), ("INFO", 20),
   ("DEBUG", 10), ("NOTSET", 0)]

/-- The capital of a letter, as far as it is a letter of ASCII: the dotless i and the long s have
the capitals I and S. -/
def capital (c : Char) : Char :=
  if c = '\u0131' then 'I' else if c = '\u017f' then 'S' else c.toUpper

/-- The threshold of a name in any case. -/
def ofName? (name : String) : Option Nat := table.lookup (name.map capital)

end LogThreshold

end KayLexer
