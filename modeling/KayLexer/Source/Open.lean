import KayLexer.FileTree
import KayLexer.Source.Basic

/-!
Sources over files and streams, in an encoding that is given by name.
-/

namespace KayLexer.ByteSource

/-- The source of a stream. -/
def openStream (stream : ByteStream) (path : Option SourcePath) (encoding : String)
    (registry : Encoding.Registry := .empty) : Except OpenError ByteSource :=
  match Encoding.ofName encoding registry with
  | .ok e => .ok (ofStream stream path e)
  | .error e => .error (.encoding e)

/-- The source of a file. The encoding is looked up before the file is touched. -/
def openFile (files : FileSystem) (path : SourcePath) (encoding : String)
    (registry : Encoding.Registry := .empty) : Except OpenError ByteSource :=
  match Encoding.ofName encoding registry with
  | .error e => .error (.encoding e)
  | .ok e =>
    if path.hasNul then .error .nulInPath
    else match files path with
      | .ok events => .ok (ofStream (.ofEvents .file events) (some path) e)
      | .error reason => .error (.notFound ⟨path, reason⟩)

end KayLexer.ByteSource
