import QueryPipe.Files.Error
import QueryPipe.Files.Resolve

/-!
Finding the source files below a root.  Links below the root are neither files
nor directories.
-/

namespace QueryPipe.Files

/-- Which files are found. -/
structure Filter where
  /-- The wanted extensions, with or without dots before them. -/
  extensions : List String := ["go"]
  /-- Whether names that begin with a dot are passed over. -/
  skipHidden : Bool := true
  /-- The names of directories that are passed over. -/
  skippedDirectories : List String := ["testdata"]
deriving DecidableEq, Repr

namespace Filter

/-- The text in lower case, as far as it is ASCII. -/
def lowerAscii (text : String) : String :=
  String.ofList (text.toList.map Char.toLower)

/-- Whether a file name has a wanted extension. -/
def wants (filter : Filter) (name : String) : Bool :=
  match Path.extension? name with
  | none => false
  | some extension =>
    filter.extensions.any fun wanted =>
      lowerAscii (String.ofList (wanted.toList.dropWhile (· == '.'))) == lowerAscii extension

/-- Whether an entry below the root is passed over, with all that is below it. -/
def prunes (filter : Filter) (name : String) (node : Node) : Bool :=
  (filter.skipHidden && name.toList.head? == some '.')
    || (node.isDirectory && filter.skippedDirectories.contains name)

mutual

/-- The locations of the files that are found below a directory, in the order of
its entries. -/
def below (filter : Filter) : Node → List Location
  | .directory entries => filter.among entries
  | .file .. => []
  | .link _ => []

/-- The locations of the files that are found at or below some entries. -/
def among (filter : Filter) : List (String × Node) → List Location
  | [] => []
  | (name, node) :: rest =>
    let found :=
      if filter.prunes name node then []
      else
        match node with
        | .file .. => if filter.wants name then [[name]] else []
        | other => (filter.below other).map (name :: ·)
    found ++ filter.among rest

end

/-- The locations of the files that are found below a directory, in order. -/
def locations (filter : Filter) (node : Node) : List Location :=
  (filter.below node).mergeSort Path.precedes

end Filter

/-- The path of a location below a root. -/
def below (root : String) (location : Location) : String :=
  (if Path.endsInSeparator root then root else root ++ String.singleton Path.separator)
    ++ Path.ofLocation location

variable [WorkingDirectory]

/-- The paths of the files below a root.  A root that is a file stands for
itself. -/
def discover (tree : Node) (root : String) (filter : Filter) : Except Error (List String) :=
  match lookup tree root with
  | .error _ => .error (.notFound root)
  | .ok (_, .directory entries) =>
    .ok ((filter.locations (.directory entries)).map (below root))
  | .ok _ =>
    match resolve tree root false with
    | .ok ⟨_, some (.file ..)⟩ =>
      .ok (if ((Path.names root).getLast?.map filter.wants).getD false then [root] else [])
    | _ => .ok []

end QueryPipe.Files
