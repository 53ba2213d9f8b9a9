/-!
A file tree as a value.  An entry is addressed by its location: the names on the
way to it from the top of the tree, none of them a link.
-/

namespace QueryPipe.Files

/-- A file, a symbolic link, or a directory with its entries. -/
inductive Node where
  | file (content : List UInt8) (isExecutable : Bool)
  | link (target : String)
  | directory (entries : List (String × Node))
deriving Inhabited

/-- The names that lead to an entry from the top of a tree. -/
abbrev Location := List String

namespace Node

/-- A directory without entries. -/
def empty : Node := .directory []

def isDirectory : Node → Bool
  | directory _ => true
  | _ => false

/-- The entry with a name, in a directory. -/
def child? (node : Node) (name : String) : Option Node :=
  match node with
  | directory entries => entries.lookup name
  | _ => none

/-- The entry at a location. -/
def get? (node : Node) : Location → Option Node
  | [] => some node
  | name :: rest => (node.child? name).bind (·.get? rest)

/-- Entries with one of them replaced, or added at the end. -/
def assign (name : String) (node : Node) : List (String × Node) → List (String × Node)
  | [] => [(name, node)]
  | entry :: rest =>
    if entry.1 == name then (name, node) :: rest else entry :: assign name node rest

/-- Puts an entry at a location; directories on the way are made where nothing
stands.  Below a file or a link nothing can be put. -/
def put (node : Node) (new : Node) : Location → Node
  | [] => new
  | name :: rest =>
    match node with
    | directory entries =>
      directory (assign name (((entries.lookup name).getD empty).put new rest) entries)
    | other => other

/-- Removes the entry at a location with all that is below it. -/
def erase (node : Node) : Location → Node
  | [] => empty
  | [name] =>
    match node with
    | directory entries => directory (entries.filter (·.1 != name))
    | other => other
  | name :: next :: rest =>
    match node with
    | directory entries =>
      match entries.lookup name with
      | some child => directory (assign name (child.erase (next :: rest)) entries)
      | none => node
    | other => other

mutual

/-- The files of a tree with their locations. -/
def files : Node → List (Location × List UInt8)
  | file content _ => [([], content)]
  | link _ => []
  | directory entries => filesOf entries

/-- The files below the entries of a directory. -/
def filesOf : List (String × Node) → List (Location × List UInt8)
  | [] => []
  | (name, node) :: rest =>
    node.files.map (fun (location, content) => (name :: location, content)) ++ filesOf rest

end

end Node

end QueryPipe.Files
