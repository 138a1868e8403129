import KayLexer.ByteStream
import KayLexer.SourcePath

/-!
Trees of files and directories, and what opening a path in one gives. Permissions, links and devices
are left out.
-/

namespace KayLexer

/-- What opening a path gives: what the reads of the file are going to yield, or a failure. -/
abbrev FileSystem := SourcePath → Except OsError (List StreamEvent)

/-- The files and directories below a working directory, each under its components. Around it there
are directories only, of which nothing but their existence is known. -/
structure FileTree where
  files : List (List String × List UInt8)
  directories : List (List String)

/-- A place that a path leads to. -/
inductive Place where
  | below (components : List String)
  /-- A directory outside the tree. -/
  | outside

namespace FileTree

/-- The tree with the given files and directories. -/
def ofNames (files : List (String × List UInt8)) (directories : List String) : FileTree where
  files := files.map fun f => ((SourcePath.ofString f.1).components, f.2)
  directories := directories.map fun d => (SourcePath.ofString d).components

def file? (t : FileTree) (components : List String) : Option (List UInt8) :=
  t.files.lookup components

/-- A directory is there if it is listed or if something is listed below it. -/
def hasDirectory (t : FileTree) (components : List String) : Bool :=
  components.isEmpty || t.directories.any components.isPrefixOf ||
    t.files.any fun f => components.isPrefixOf f.1 && components != f.1

/-- The most bytes that a component may have. -/
def maxComponentBytes : Nat := 255

/-- The most bytes that a path may have. -/
def maxPathBytes : Nat := 4095

def parent : Place → Place
  | .below [] => .outside
  | .below components => .below components.dropLast
  | .outside => .outside

/-- One component down from a place. -/
def child (t : FileTree) (place : Place) (name : String) : Except OsError Place :=
  if maxComponentBytes < name.utf8ByteSize then .error .nameTooLong
  else match place with
    | .outside => .error .noSuchFile
    | .below components =>
      let components := components ++ [name]
      if (t.file? components).isSome || t.hasDirectory components then .ok (.below components)
      else .error .noSuchFile

/-- Whether a place is a file. -/
def isFile (t : FileTree) : Place → Bool
  | .below components => (t.file? components).isSome
  | .outside => false

/-- The place that components lead to. Every step, one to the parent too, has to start from a
directory that is there. -/
def walk (t : FileTree) (place : Place) : List String → Except OsError Place
  | [] => .ok place
  | name :: names =>
    if t.isFile place then .error .notADirectory
    else if name = ".." then t.walk (parent place) names
    else match t.child place name with
      | .ok place' => t.walk place' names
      | .error e => .error e

/-- Opens a path for reading. -/
def openPath (t : FileTree) : FileSystem := fun path =>
  if maxPathBytes < path.render.utf8ByteSize then .error .nameTooLong
  else
    let origin := if path.root = .workingDirectory then Place.below [] else .outside
    match t.walk origin path.components with
    | .error e => .error e
    | .ok .outside => .error .isADirectory
    | .ok (.below components) =>
      match t.file? components with
      | some bytes => .ok (bytes.map .byte)
      | none => .error .isADirectory

end FileTree

end KayLexer
