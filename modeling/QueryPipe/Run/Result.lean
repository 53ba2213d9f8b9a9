import QueryPipe.Text.Position

/-!
The result of one file.
-/

namespace QueryPipe.Run

/-- A query that was rejected. -/
structure Failure where
  message : String
  position : Text.Position
  query : String
deriving DecidableEq, Repr

/-- The result of one file. -/
structure FileResult where
  path : String
  /-- The changed file, if anything was replaced. -/
  output : Option String := none
  /-- The rejected queries, in source order. -/
  failures : List Failure := []
  /-- Whether the file is to be changed. -/
  isChanged : Bool := false
deriving DecidableEq, Repr

namespace FileResult

/-- One if any query was rejected, else zero. -/
def exitCode (result : FileResult) : Nat :=
  if result.failures.isEmpty then 0 else 1

/-- The report of one rejected query. -/
def block (path : String) (failure : Failure) : String :=
  path ++ ":" ++ failure.position.render ++ ":\n" ++ failure.query ++ "\n" ++ failure.message

/-- The reports of all rejected queries with blank lines between them. -/
def render (result : FileResult) : String :=
  String.intercalate "\n\n" (result.failures.map (block result.path))

/-- The report of one rejected query in the pieces that are printed one by one. -/
def blockPieces (path : String) (failure : Failure) : List String :=
  path :: ":" :: failure.position.pieces ++ [":\n", failure.query, "\n", failure.message]

/-- The reports of all rejected queries in the pieces that are printed one by one. -/
def pieces (result : FileResult) : List String :=
  ["\n\n"].intercalate (result.failures.map (blockPieces result.path))

end FileResult

/-- A file that could not be written. -/
structure WriteFailure where
  path : String
  message : String
deriving DecidableEq, Repr

namespace WriteFailure

/-- What is said about the file, piece by piece. -/
def pieces (failure : WriteFailure) : List String :=
  ["failed to write file ", failure.path, ": ", failure.message]

def render (failure : WriteFailure) : String := String.join failure.pieces

end WriteFailure

end QueryPipe.Run
