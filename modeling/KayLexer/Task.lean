/-!
The tasks of the development setup, each of which is one run of the task runner.
-/

namespace KayLexer

inductive DevelopmentTask where
  | check
  | fix
  | test
  deriving DecidableEq

namespace DevelopmentTask

def all : List DevelopmentTask := [check, fix, test]

def name : DevelopmentTask → String
  | check => "check"
  | fix => "fix"
  | test => "test"

def ofName? (name : String) : Option DevelopmentTask := all.find? (·.name = name)

/-- The words of the command that carries out the task. -/
def command (t : DevelopmentTask) : List String := ["poe", t.name]

/-- Carries out the task: the commands that are run, and the exit code, which is that of the
command. -/
def run (t : DevelopmentTask) (execute : List String → Int) : Int × List (List String) :=
  (execute t.command, [t.command])

end DevelopmentTask

end KayLexer
