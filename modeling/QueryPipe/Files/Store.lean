import QueryPipe.Files.Fate
import QueryPipe.Files.Resolve

/-!
Reading and changing the files of a tree by their paths.
-/

namespace QueryPipe.Files

variable [WorkingDirectory]

/-- The content of a file. -/
def readBytes (tree : Node) (path : String) : Except Fault (List UInt8) :=
  match lookup tree path with
  | .error fault => .error fault
  | .ok (_, .file content _) => .ok content
  | .ok _ => .error .isDirectory

/-- Where a path can be written: at a file, or where nothing stands yet. -/
def writable (tree : Node) (path : String) : Except Fault (Location × Bool) :=
  match resolve tree path true with
  | .error fault => .error fault
  | .ok ⟨location, none⟩ => .ok (location, false)
  | .ok ⟨location, some (.file _ isExecutable)⟩ => .ok (location, isExecutable)
  | .ok _ => .error .isDirectory

/-- The path of the directory that holds what a path names. -/
def parentPath (path : String) : String :=
  (if Path.isAbsolute path then "/" else "./") ++ Path.ofLocation (Path.names path).dropLast

/-- A path that ends in a separator cannot be written; where the directory
before its last name is at fault, that fault comes first. -/
def refuseDirectoryPath (tree : Node) (path : String) : Except Fault Unit :=
  if Path.endsInSeparator path then
    match lookup tree (parentPath path) with
    | .error fault => .error fault
    | .ok (_, .directory _) => .error .isDirectory
    | .ok _ => .error .notDirectory
  else .ok ()

/-- Replaces the content of a file, or makes a new one, where nothing disturbs the
write.  A file keeps whether it can be executed. -/
def writeBytes (tree : Node) (path : String) (content : List UInt8) : Except Fault Node := do
  refuseDirectoryPath tree path
  let (location, isExecutable) ← writable tree path
  return tree.put (.file content isExecutable) location

/-- Replaces the content of a file as far as the fate of the write lets it.  The file is
emptied first, so one that breaks off leaves the bytes it has come to. -/
def overwrite (tree : Node) (path : String) (content : List UInt8) (fate : Fate) :
    Option Fault × Node :=
  match writeBytes tree path (fate.reaching content) with
  | .error fault => (some fault, tree)
  | .ok next => (fate.fault?, if fate.opens then next else tree)

/-- Adds to the end of a file, or makes a new one. -/
def appendBytes (tree : Node) (path : String) (content : List UInt8) : Except Fault Node := do
  refuseDirectoryPath tree path
  let (location, isExecutable) ← writable tree path
  let before := match tree.get? location with
    | some (.file content _) => content
    | _ => []
  return tree.put (.file (before ++ content) isExecutable) location

/-- A path without separators at its end. -/
def withoutFinalSeparator (path : String) : String :=
  Path.alongside path (Path.names path)

/-- Makes a directory where nothing stands yet. -/
def makeDirectory (tree : Node) (path : String) : Except Fault Node :=
  match resolve tree (withoutFinalSeparator path) false with
  | .error fault => .error fault
  | .ok ⟨_, some _⟩ => .error .occupied
  | .ok ⟨location, none⟩ => .ok (tree.put .empty location)

/-- The paths on the way to a path, which is the last of them. -/
def leadingPaths (path : String) : List String :=
  let names := Path.names path
  (List.range names.length).map fun count => Path.alongside path (names.take (count + 1))

/-- Makes a directory and those on the way to it, as far as they are missing. -/
def makeDirectories (tree : Node) (path : String) : Except Fault Node :=
  (leadingPaths path).foldlM (fun tree path =>
    match lookup tree path with
    | .ok (_, .directory _) => .ok tree
    | .ok _ => .error .occupied
    | .error .missing => makeDirectory tree path
    | .error fault => .error fault) tree

/-- Whether a path names a file that can be executed. -/
def isExecutableFile (tree : Node) (path : String) : Bool :=
  match lookup tree path with
  | .ok (_, .file _ isExecutable) => isExecutable
  | _ => false

end QueryPipe.Files
