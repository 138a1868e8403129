import KayLexer.Text.Blank

/-!
The environment of a process: variables and their values, and how a file of settings fills it. How
such a file is written is left out; it is given by the list of what it says.
-/

namespace KayLexer

/-- The values of the variables that are set. -/
abbrev Environment := String → Option String

namespace Environment

/-- No variable is set. -/
def empty : Environment := fun _ => none

/-- The variables of a list, in which the last value counts. -/
def ofList (settings : List (String × String)) : Environment := fun k => settings.reverse.lookup k

/-- Sets a variable, or with `none` unsets it. -/
def set (env : Environment) (key : String) (value : Option String) : Environment :=
  fun k => if k = key then value else env k

/-- Sets the variables of a list of settings that are not set already. A variable that is set to
the empty text is set. -/
def load (env : Environment) (settings : List (String × String)) : Environment :=
  fun k => env k <|> ofList settings k

/-- A value without the blanks around it, or the default if nothing else is there. The default is
given as it is. -/
def orDefault (value : Option String) (default : String) : String :=
  match value with
  | none => default
  | some v => if Text.trim v = "" then default else Text.trim v

end Environment

end KayLexer
