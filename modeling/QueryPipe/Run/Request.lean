import QueryPipe.Files.Discover
import QueryPipe.Run.Batch
import QueryPipe.Settings.Basic

/-!
A run over all sources below a root.
-/

namespace QueryPipe.Run

/-- What a run is asked to do. -/
structure Request where
  root : String
  command : String
  mode : Mode
  config : Config
deriving DecidableEq, Repr

/-- Why a run came to nothing. -/
inductive Refusal where
  | noCommand
  | discovery (root : String) (cause : Files.Error)
  | processing (cause : Error)
  /-- The files that could not be written could not be reported either. -/
  | reporting (cause : String)
deriving DecidableEq, Repr

namespace Refusal

/-- The messages of a refusal and of the causes below it. -/
def chain : Refusal → List String
  | noCommand => ["no command specified: pass --cmd or set `command` in settings"]
  | discovery root cause => ("failed to discover Go files under " ++ root) :: cause.chain
  | processing cause => cause.chain
  | reporting cause => [cause]

end Refusal

namespace Request

/-- The request that settings make for a root.  They must set a command that is
not blank. -/
def ofSettings (root : String) (settings : Settings) : Except Refusal Request :=
  match Settings.unlessBlank settings.command with
  | none => .error .noCommand
  | some command => .ok { root, command, mode := settings.runMode, config := settings.config }

/-- The lines about files that could not be written, piece by piece. -/
def writeReport (summary : Summary) : List String :=
  summary.writeErrors.flatMap (·.pieces ++ ["\n"])

/-- Finds the sources below the root and processes them. -/
def perform [Files.WorkingDirectory] (request : Request) (run : Command.Runner Files.Node)
    (sink : Sink) (tree : Files.Node) (fates : String → Files.Fate := fun _ => .done) :
    Except Refusal Summary × Sink × Files.Node :=
  match Files.discover tree request.root {} with
  | .error cause => (.error (.discovery request.root cause), sink, tree)
  | .ok paths =>
    match batch request.config run request.command request.mode paths sink tree fates with
    | (.error cause, sink, tree) => (.error (.processing cause), sink, tree)
    | (.ok summary, sink, tree) =>
      let sink := sink.writeAll (writeReport summary)
      match sink.failure? with
      | some failure => (.error (.reporting failure), sink, tree)
      | none => (.ok summary, sink, tree)

end Request

end QueryPipe.Run
