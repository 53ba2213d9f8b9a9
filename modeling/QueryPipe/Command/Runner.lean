import QueryPipe.Shell.Launch
import QueryPipe.Text.Newlines
import QueryPipe.Text.Quoted

/-!
Running a command line on a query.
-/

namespace QueryPipe.Command

/-- What a command line answers. -/
structure Answer where
  /-- All that was printed, without the line ends around it. -/
  output : String
  /-- The exit status; `-1` if a signal ended the command. -/
  exitCode : Int
deriving DecidableEq, Repr

namespace Answer

/-- Whether the command accepted its input. -/
def isSuccess (answer : Answer) : Bool := answer.exitCode == 0

end Answer

/-- Why a command line could not be run.  That a command fails is no error. -/
inductive Error where
  | blankShell
  | notStarted (command : String) (cause : Shell.LaunchError)
deriving DecidableEq, Repr

namespace Error

def message : Error → String
  | blankShell => "Invalid configuration: shell must not be empty"
  | notStarted command cause =>
    "failed to execute command " ++ Text.quoted command ++ ": " ++ cause.message

/-- The message and those of the causes below it. -/
def chain (error : Error) : List String :=
  match error with
  | notStarted _ cause => [error.message, cause.message]
  | blankShell => [error.message]

end Error

/-- How command lines are run.  What a command changes around it is a new state
of the world. -/
abbrev Runner (World : Type) :=
  (command input : String) → World → Except Error Answer × World

/-- The text of what a command printed. -/
def outputText (printed : List UInt8) : String :=
  Text.Utf8.decodeLossy (Text.stripNewlines printed)

/-- The script that a shell is given: errors are printed where the output goes. -/
def script (command : String) : String := "exec 2>&1\n" ++ command

/-- Runs command lines with a shell.  Directories of the search path hold
commands besides those that are always there. -/
def withShell [Files.WorkingDirectory] (searchPath : List String) (shell : String) :
    Runner Files.Node :=
  fun command input tree =>
    if Text.isBlank shell then (.error .blankShell, tree)
    else
      match Shell.launch searchPath shell (script command) input tree with
      | .error cause => (.error (.notStarted command cause), tree)
      | .ok outcome =>
        (.ok ⟨outputText outcome.printed, match outcome.status? with
          | some status => status
          | none => -1⟩, outcome.tree)

end QueryPipe.Command
