import QueryPipe.Files.Error
import QueryPipe.Files.Store
import QueryPipe.Text.Utf8

/-!
Source files as text.  An edited file must keep every byte that is not
replaced, so a source is used only if it decodes exactly.
-/

namespace QueryPipe.Files

/-- How many bytes are inspected for a NUL. -/
def sniffLength : Nat := 8192

/-- Whether a NUL stands among the first bytes. -/
def isBinary (content : List UInt8) : Bool :=
  (content.take sniffLength).contains 0

/-- The text of a source. -/
def decode (content : List UInt8) : Except Error String :=
  if isBinary content then .error .binaryFile
  else (Text.Utf8.decode content).mapError .invalidUtf8

/-- The largest source that is read unless another limit is set, in bytes. -/
def defaultLimit : Nat := 1048576

/-- The size that the file system gives to a directory. -/
def directorySize : Nat := 4096

/-- The size of an entry, in bytes. -/
def Node.size : Node → Nat
  | file content _ => content.length
  | link target => target.utf8ByteSize
  | directory _ => directorySize

variable [WorkingDirectory]

/-- The text of the source at a path. -/
def readText (tree : Node) (path : String) (limit : Nat) : Except Error String :=
  match lookup tree path with
  | .error _ => .error (.notFound path)
  | .ok (_, node) =>
    if node.size > limit then .error (.tooLarge node.size limit)
    else
      match node with
      | .file content _ => decode content
      | _ => .error (.system .isDirectory)

/-- Replaces a source in place as far as the fate of the write lets it. -/
def replaceText (tree : Node) (path text : String) (fate : Fate) : Option Error × Node :=
  let (fault?, tree) := overwrite tree path (Text.Utf8.encode text) fate
  (fault?.map .system, tree)

/-- Replaces a source where nothing disturbs the write. -/
def writeText (tree : Node) (path text : String) : Except Error Node :=
  match replaceText tree path text .done with
  | (none, tree) => .ok tree
  | (some error, _) => .error error

end QueryPipe.Files
