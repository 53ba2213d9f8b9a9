import QueryPipe.Files.Fault
import QueryPipe.Files.Node
import QueryPipe.Files.Path

/-!
From a path to the location that it names.  An absolute path starts at the top of
the tree, any other one at the working directory.  Links are followed wherever
they stand; a link at the very end of a path is followed only on request.
-/

namespace QueryPipe.Files

/-- Where paths start that are not absolute. -/
class WorkingDirectory where
  location : Location

/-- Paths start at the top of the tree where nothing else is said. -/
instance (priority := low) : WorkingDirectory := ⟨[]⟩

/-- What a path leads to. -/
structure Spot where
  location : Location
  /-- What stands there; nothing where only the directory around it exists. -/
  node? : Option Node

namespace Resolve

/-- How far a path can be walked without following a link. -/
inductive Stop where
  | arrived (spot : Spot)
  /-- A link in the directory at `base`; the names in `rest` are still to go. -/
  | link (base : Location) (target : String) (rest : List String)
  | fault (fault : Fault)

/-- The longest name that a directory can hold, in bytes. -/
def longestName : Nat := 255

/-- How many links are followed before a path counts as endless. -/
def linkLimit : Nat := 40

/-- Walks down the names of a path from a location.  The directory around the top of
the tree is the top itself. -/
def descend (tree : Node) (followLast : Bool) (location : Location) : List String → Stop
  | [] => .arrived ⟨location, tree.get? location⟩
  | name :: rest =>
    match tree.get? location with
    | some (.directory entries) =>
      if name == "." then descend tree followLast location rest
      else if name == ".." then descend tree followLast location.dropLast rest
      else if name.utf8ByteSize > longestName then .fault .nameTooLong
      else
        match entries.lookup name with
        | none =>
          if rest.isEmpty then .arrived ⟨location ++ [name], none⟩ else .fault .missing
        | some (.link target) =>
          if rest.isEmpty && !followLast then
            .arrived ⟨location ++ [name], some (.link target)⟩
          else .link location target rest
        | some _ => descend tree followLast (location ++ [name]) rest
    | some _ => .fault .notDirectory
    | none => .fault .missing

/-- The names to walk for a path; a separator at the end asks for the directory
itself. -/
def steps (path : String) : List String :=
  Path.names path ++ (if Path.endsInSeparator path then ["."] else [])

/-- Where a path starts that is met at a location. -/
def start (path : String) (location : Location) : Location :=
  if Path.isAbsolute path then [] else location

/-- Walks down names and follows links, at most `links` of them. -/
def follow (tree : Node) (followLast : Bool) :
    (links : Nat) → Location → List String → Except Fault Spot
  | links, location, names =>
    match descend tree followLast location names with
    | .arrived spot => .ok spot
    | .fault fault => .error fault
    | .link base target rest =>
      match links with
      | 0 => .error .tooManyLinks
      | links + 1 =>
        if target.isEmpty then .error .missing
        else follow tree followLast links (start target base) (steps target ++ rest)

end Resolve

variable [WorkingDirectory]

/-- What a path names. -/
def resolve (tree : Node) (path : String) (followLast : Bool) : Except Fault Spot :=
  if path.toList.contains '\x00' then .error .nulInName
  else if path.isEmpty then .error .missing
  else
    Resolve.follow tree followLast Resolve.linkLimit
      (Resolve.start path WorkingDirectory.location) (Resolve.steps path)

/-- The entry that a path names, links followed. -/
def lookup (tree : Node) (path : String) : Except Fault (Location × Node) :=
  match resolve tree path true with
  | .error fault => .error fault
  | .ok ⟨location, some node⟩ => .ok (location, node)
  | .ok ⟨_, none⟩ => .error .missing

end QueryPipe.Files
