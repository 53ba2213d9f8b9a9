import QueryPipe.Text.Order
import QueryPipe.Text.Split

/-!
Paths as they are written.
-/

namespace QueryPipe.Files.Path

def separator : Char := '/'

/-- Whether a path starts at the top of the file system. -/
def isAbsolute (path : String) : Bool :=
  path.toList.head? == some separator

/-- Whether a path insists on a directory. -/
def endsInSeparator (path : String) : Bool :=
  path.toList.getLast? == some separator

/-- The names between separators; a repeated separator adds none. -/
def names (path : String) : List String :=
  ((Text.splitOn separator path.toList).filter (!·.isEmpty)).map String.ofList

/-- One path below another; an absolute path stays as it is. -/
def join (base path : String) : String :=
  if isAbsolute path then path
  else if base.isEmpty || endsInSeparator base then base ++ path
  else base ++ String.singleton separator ++ path

/-- The path of an entry with a relative location. -/
def ofLocation (location : List String) : String :=
  String.intercalate "/" location

/-- The path of some names that starts where another path starts. -/
def alongside (path : String) (names : List String) : String :=
  (if isAbsolute path then String.singleton separator else "") ++ ofLocation names

/-- What follows the last dot of a file name.  A dot at the front begins no
extension. -/
def extension? (name : String) : Option String :=
  let reversed := name.toList.reverse
  match reversed.dropWhile (· != '.') with
  | _ :: _ :: _ => some (String.ofList (reversed.takeWhile (· != '.')).reverse)
  | _ => none

/-- Locations are ordered name by name; a location comes before those below it. -/
def precedes (left right : List String) : Bool :=
  Text.precedes Text.isLess left right

end QueryPipe.Files.Path
