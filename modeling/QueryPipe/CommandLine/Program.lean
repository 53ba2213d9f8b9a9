import QueryPipe.CommandLine.Arguments
import QueryPipe.Run.Request
import QueryPipe.Settings.Places

/-!
The program as a function of its arguments and its surroundings.
-/

namespace QueryPipe.CommandLine

/-- What the program finds around it. -/
structure Environment where
  projectRoot : Option String := none
  configHome : Option String := none
  /-- Directories of the file tree whose executable files are commands. -/
  searchPath : List String := []
deriving DecidableEq, Repr

/-- How the program ends. -/
inductive Ending where
  /-- The arguments were refused. -/
  | usage (error : UsageError)
  | refused (refusal : Run.Refusal)
  | finished (summary : Run.Summary)
deriving DecidableEq, Repr

namespace Ending

def exitCode : Ending → Nat
  | usage error => error.exitCode
  | refused _ => 1
  | finished summary => summary.exitCode

/-- A text with all lines after the first one indented. -/
def indentLines (indentation : String) (text : String) : String :=
  String.intercalate ("\n" ++ indentation)
    ((Text.splitOn '\n' text.toList).map String.ofList)

/-- A cause as the only one. -/
def onlyCause (cause : String) : String := "    " ++ indentLines "    " cause

/-- A cause with its number. -/
def numberedCause (number : Nat) (cause : String) : String :=
  let digits := toString number
  String.ofList (List.replicate (5 - digits.length) ' ') ++ digits ++ ": "
    ++ indentLines "       " cause

/-- The lines about causes; they are numbered if there are several. -/
def causeLines : List String → List String
  | [] => []
  | [cause] => ["", "Caused by:", onlyCause cause]
  | causes => "" :: "Caused by:" :: causes.mapIdx numberedCause

/-- What is printed about an error. -/
def errorText : List String → String
  | [] => ""
  | message :: causes =>
    String.intercalate "\n" (("Error: " ++ message) :: causeLines causes) ++ "\n"

/-- What is printed at the end.  How the help reads is up to the program that
prints it. -/
def text : Ending → String
  | usage _ => ""
  | refused refusal => errorText refusal.chain
  | finished _ => ""

end Ending

/-- The directory that the program works in. -/
def workingDirectory : String := "."

/-- The settings of a run: those in files, with those of the command line on top,
and the default formatter if none is set. -/
def settingsOf [Files.WorkingDirectory] (environment : Environment) (arguments : Arguments)
    (tree : Files.Node) : Settings :=
  let places := Settings.places {
    projectRoot := environment.projectRoot
    configHome := environment.configHome
    override := arguments.configHome
    workingDirectory }
  ((Settings.load tree places).merge arguments.settings).withDefaultFormatter
    (Settings.hasDefaultFormatter tree environment.searchPath)

/-- Runs the program: how it ends, what it prints, and the files after it. -/
def run [Files.WorkingDirectory] (environment : Environment) (arguments : List String)
    (tree : Files.Node) (fates : String → Files.Fate := fun _ => .done) :
    Ending × String × Files.Node :=
  match Arguments.parse arguments with
  | .error error => (.usage error, "", tree)
  | .ok arguments =>
    let settings := settingsOf environment arguments tree
    match Run.Request.ofSettings arguments.directory settings with
    | .error refusal => (.refused refusal, Ending.text (.refused refusal), tree)
    | .ok request =>
      let runner := Command.withShell environment.searchPath request.config.shell
      match request.perform runner {} tree fates with
      | (.ok summary, sink, tree) => (.finished summary, sink.text, tree)
      | (.error refusal, sink, tree) =>
        (.refused refusal, sink.text ++ Ending.text (.refused refusal), tree)

end QueryPipe.CommandLine
