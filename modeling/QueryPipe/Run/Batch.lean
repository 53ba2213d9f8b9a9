import QueryPipe.Patch.Unified
import QueryPipe.Run.Mode
import QueryPipe.Run.Process
import QueryPipe.Run.Report

/-!
Processing many files.  Nothing is written before all files have been processed,
and nothing at all if the work on any of them was ended by an error.
-/

namespace QueryPipe.Run

variable [Files.WorkingDirectory]

/-- The totals of a run. -/
structure Summary where
  /-- One if any query was rejected, else zero. -/
  exitCode : Nat
  files : Nat
  failures : Nat
  /-- The paths of changed files, in order. -/
  changed : List String
  /-- Files that could not be written; they do not change the exit code. -/
  writeErrors : List WriteFailure
deriving DecidableEq, Repr

/-- Processes files, one after the other. -/
def processAll (config : Config) (run : Command.Runner Files.Node) (command : String)
    (replaces : Bool) : List String → Files.Node → List Outcome × Files.Node
  | [], tree => ([], tree)
  | path :: rest, tree =>
    let (outcome, tree) := processFile config run command path replaces tree
    let (outcomes, tree) := processAll config run command replaces rest tree
    (outcome :: outcomes, tree)

/-- Writes changed files, each with the fate that a write to its path has; a write that
fails does not stop the others. -/
def writeBack (fates : String → Files.Fate) :
    List FileResult → Files.Node → List WriteFailure × Files.Node
  | [], tree => ([], tree)
  | result :: rest, tree =>
    match result.output with
    | none => writeBack fates rest tree
    | some output =>
      let (error?, tree) := Files.replaceText tree result.path output (fates result.path)
      let (failures, tree) := writeBack fates rest tree
      match error? with
      | none => (failures, tree)
      | some cause => (⟨result.path, cause.message⟩ :: failures, tree)

/-- Prints how changed files differ from what is there, up to the first that
cannot be read or printed. -/
def printDiffs (limit : Nat) (tree : Files.Node) :
    List FileResult → Sink → Option Error × Sink
  | [], sink => (none, sink)
  | result :: rest, sink =>
    match result.output with
    | none => printDiffs limit tree rest sink
    | some output =>
      match Files.readText tree result.path limit with
      | .error cause => (some (.read result.path cause), sink)
      | .ok source =>
        let sink := sink.write (Patch.unified result.path source output)
        match sink.failure? with
        | some failure => (some (.output failure), sink)
        | none => printDiffs limit tree rest sink

/-- The totals of a report. -/
def summary (report : Report) (writeErrors : List WriteFailure) : Summary :=
  { exitCode := report.exitCode
    files := report.files
    failures := report.failures
    changed := report.changed.map (·.path)
    writeErrors }

/-- Does with changed files what the mode asks for. -/
def conclude (mode : Mode) (limit : Nat) (report : Report) (tree : Files.Node)
    (fates : String → Files.Fate := fun _ => .done) :
    Except Error Summary × Sink × Files.Node :=
  match report.verdict? with
  | some error => (.error error, report.sink, tree)
  | none =>
    match mode with
    | .lint => (.ok (summary report []), report.sink, tree)
    | .fmt =>
      let (writeErrors, tree) := writeBack fates report.changed tree
      (.ok (summary report writeErrors), report.sink, tree)
    | .diff =>
      match printDiffs limit tree report.changed report.sink with
      | (some error, sink) => (.error error, sink, tree)
      | (none, sink) => (.ok (summary report []), sink, tree)

/-- Reports on outcomes, which arrive with their indices in any order, and does
with changed files what the mode asks for. -/
def settle (mode : Mode) (limit : Nat) (sink : Sink) (arrivals : List (Nat × Outcome))
    (tree : Files.Node) (fates : String → Files.Fate := fun _ => .done) :
    Except Error Summary × Sink × Files.Node :=
  conclude mode limit (Report.collect sink arrivals) tree fates

/-- Outcomes with their indices. -/
def indexed (outcomes : List Outcome) : List (Nat × Outcome) :=
  outcomes.mapIdx (·, ·)

/-- Processes files and reports on them. -/
def batch (config : Config) (run : Command.Runner Files.Node) (command : String) (mode : Mode)
    (paths : List String) (sink : Sink) (tree : Files.Node)
    (fates : String → Files.Fate := fun _ => .done) :
    Except Error Summary × Sink × Files.Node :=
  let (outcomes, tree) := processAll config run command mode.replaces paths tree
  settle mode config.limit sink (indexed outcomes) tree fates

end QueryPipe.Run
