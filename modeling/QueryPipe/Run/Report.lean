import QueryPipe.Run.Arrival
import QueryPipe.Run.Error
import QueryPipe.Run.Result
import QueryPipe.Run.Sink

/-!
Reporting on the files of a run, one after the other.
-/

namespace QueryPipe.Run

/-- What processing a file came to. -/
abbrev Outcome := Except Error FileResult

/-- What has been reported so far. -/
structure Report where
  sink : Sink
  /-- How many files were accepted. -/
  files : Nat := 0
  /-- How many queries were rejected. -/
  failures : Nat := 0
  exitCode : Nat := 0
  /-- Whether anything was printed about a file. -/
  hasPrinted : Bool := false
  /-- Results with changed files, in order. -/
  changed : List FileResult := []
  /-- What ended the work on files, with their indices. -/
  errors : List (Nat × Error) := []

namespace Report

/-- What is printed about a file with rejected queries, piece by piece: its reports,
after a blank line unless it is the first such file. -/
def texts (hasPrinted : Bool) (result : FileResult) : List String :=
  (if hasPrinted then ["\n"] else []) ++ result.pieces ++ ["\n"]

/-- Adds a result to the totals. -/
def count (report : Report) (result : FileResult) : Report :=
  { report with
    files := report.files + 1
    failures := report.failures + result.failures.length
    exitCode := max report.exitCode result.exitCode
    changed := if result.isChanged then report.changed ++ [result] else report.changed }

/-- Accepts the next outcome. -/
def accept (report : Report) : Nat × Outcome → Report
  | (index, .error error) =>
    { report with
      files := report.files + 1
      errors := report.errors ++ [(index, error)] }
  | (_, .ok result) =>
    if result.exitCode == 0 then report.count result
    else
      { report.count result with
        sink := report.sink.writeAll (texts report.hasPrinted result)
        hasPrinted := true }

/-- Accepts outcomes in the order of their indices, whatever order they arrive
in. -/
def collect (sink : Sink) (arrivals : List (Nat × Outcome)) : Report :=
  (inOrder arrivals).foldl accept { sink }

/-- Of two errors the one with the smaller index; the earlier one if they have the
same. -/
def earlier (best : Option (Nat × Error)) (entry : Nat × Error) : Option (Nat × Error) :=
  match best with
  | none => some entry
  | some found => if entry.1 < found.1 then some entry else some found

/-- The error with the smallest index. -/
def firstError? (report : Report) : Option Error :=
  (report.errors.foldl earlier none).map (·.2)

/-- What a run fails with after its files have been reported on.  That the report
could not be written comes before all else. -/
def verdict? (report : Report) : Option Error :=
  match report.sink.failure? with
  | some failure => some (.output failure)
  | none => report.firstError?

end Report

end QueryPipe.Run
