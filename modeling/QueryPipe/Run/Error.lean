import QueryPipe.Command.Runner
import QueryPipe.Files.Error
import QueryPipe.Go.Parser

/-!
What ends the work on a file.
-/

namespace QueryPipe.Run

inductive Error where
  | read (path : String) (cause : Files.Error)
  | parse (cause : Go.SourceError)
  | command (cause : Command.Error)
  /-- The edited source is refused; `reason` is the formatter's output or what
  is wrong with the source. -/
  | format (path reason : String)
  /-- The report could not be written. -/
  | output (cause : String)
deriving DecidableEq, Repr

namespace Error

def message : Error → String
  | read path cause => "failed to read file " ++ path ++ ": " ++ cause.message
  | parse cause => cause.message
  | command cause => cause.message
  | format path reason => "failed to format source " ++ path ++ ": " ++ reason
  | output cause => "failed to write output: " ++ cause

/-- The message and those of the causes below it. -/
def chain (error : Error) : List String :=
  match error with
  | read _ cause => error.message :: cause.chain
  | parse cause => [cause.message]
  | command cause => cause.chain
  | format .. => [error.message]
  | output cause => [error.message, cause]

end Error

end QueryPipe.Run
