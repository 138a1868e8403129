/-!
Paths of source files in normal form: runs of slashes, dot components and trailing slashes do not
count, while a step to the parent directory does.
-/

namespace KayLexer

/-- Where a path starts. Exactly two leading slashes are a root of their own. -/
inductive PathRoot where
  | workingDirectory
  | oneSlash
  | twoSlashes
  deriving DecidableEq

/-- A path in normal form. -/
structure SourcePath where
  root : PathRoot
  components : List String
  deriving DecidableEq

namespace SourcePath

/-- The pieces of a text between slashes. -/
def pieces : List Char → List (List Char)
  | [] => [[]]
  | c :: cs =>
    if c = '/' then [] :: pieces cs
    else match pieces cs with
      | [] => [[c]]
      | p :: ps => (c :: p) :: ps

/-- The root that a number of leading slashes stands for. -/
def rootOf : Nat → PathRoot
  | 0 => .workingDirectory
  | 2 => .twoSlashes
  | _ => .oneSlash

/-- The normal form of a path. -/
def ofString (s : String) : SourcePath where
  root := rootOf (s.toList.takeWhile (· = '/')).length
  components := ((pieces s.toList).map String.ofList).filter fun p => p ≠ "" ∧ p ≠ "."

def rootText : PathRoot → String
  | .workingDirectory => ""
  | .oneSlash => "/"
  | .twoSlashes => "//"

/-- The path as text. The working directory itself is a dot. -/
def render (p : SourcePath) : String :=
  if p.root = .workingDirectory ∧ p.components = [] then "."
  else rootText p.root ++ String.intercalate "/" p.components

/-- Whether a zero character stands in the path. No file can be opened under such a path. -/
def hasNul (p : SourcePath) : Bool := p.components.any (·.toList.contains '\x00')

end SourcePath

end KayLexer
