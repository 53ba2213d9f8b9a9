import QueryPipe.CommandLine.Program

/-!
The command line program.

It works on the files whose paths it reads from the standard input, one on each
line and relative to the working directory; a listing of the files in a project
is what it is meant to be given.  Files that a run changes are written back, and
files that it removes are removed.
-/

namespace QueryPipe.Main

/-- A path as a location in the tree. -/
def locationOf (path : String) : Files.Location :=
  (Files.Path.names path).filter (· != ".")

/-- The lines of a stream up to its end. -/
partial def readLines (stream : IO.FS.Stream) : IO (List String) := do
  let line ← stream.getLine
  if line.isEmpty then return []
  else return String.ofList (line.toList.takeWhile (· != '\n')) :: (← readLines stream)

/-- The tree of some files. -/
def readTree (paths : List String) : IO Files.Node :=
  paths.foldlM (fun tree (path : String) => do
    let content ← IO.FS.readBinFile path
    return tree.put (.file content.toList false) (locationOf path)) .empty

/-- Makes the files on disk those of a tree. -/
def writeTree (before after : Files.Node) : IO Unit := do
  for (location, content) in after.files do
    unless before.files.lookup location == some content do
      IO.FS.createDirAll ("./" ++ Files.Path.ofLocation location.dropLast)
      IO.FS.writeBinFile (Files.Path.ofLocation location) ⟨content.toArray⟩
  for (location, _) in before.files do
    if (after.files.lookup location).isNone then
      IO.FS.removeFile (Files.Path.ofLocation location)

/-- What the program finds around it. -/
def environment : IO CommandLine.Environment := do
  return {
    projectRoot := ← IO.getEnv "PRJ_ROOT"
    configHome := ← IO.getEnv "PRJ_CONFIG_HOME" }

end QueryPipe.Main

/-- Runs the program. -/
def main (arguments : List String) : IO UInt32 := do
  let paths ← QueryPipe.Main.readLines (← IO.getStdin)
  let before ← QueryPipe.Main.readTree (paths.filter (!·.isEmpty))
  let environment ← QueryPipe.Main.environment
  let (ending, text, after) := QueryPipe.CommandLine.run environment arguments before
  QueryPipe.Main.writeTree before after
  IO.eprint text
  return UInt32.ofNat ending.exitCode
