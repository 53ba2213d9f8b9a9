import QueryPipe.Run.Error

/-!
The canonical form of an edited source: it parses, ends in one line end, and is
what the formatter makes of it.
-/

namespace QueryPipe.Run

/-- What becomes of a formatter's answer. -/
def formatted (path : String) (answer : Command.Answer) : Except Error String :=
  if answer.isSuccess then .ok (Text.endWithNewline answer.output)
  else .error (.format path answer.output)

/-- The canonical form of a source.  A blank formatter is none. -/
def canonicalize (run : Command.Runner World) (formatter : Option String) (path source : String)
    (world : World) : Except Error String × World :=
  match Go.parse? source.toList with
  | none => (.error (.format path (Go.SourceError.ofSource path source.toList).message), world)
  | some _ =>
    let text := Text.endWithNewline source
    match formatter with
    | none => (.ok text, world)
    | some command =>
      if Text.isBlank command then (.ok text, world)
      else
        match run command text world with
        | (.error cause, world) => (.error (.command cause), world)
        | (.ok answer, world) => (formatted path answer, world)

end QueryPipe.Run
