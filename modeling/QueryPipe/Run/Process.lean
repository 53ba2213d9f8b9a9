import QueryPipe.Files.Source
import QueryPipe.Literal.Query
import QueryPipe.Run.Canonical
import QueryPipe.Run.Result
import QueryPipe.Site.Unit

/-!
The work on one file: each query of the source is given to the command, and an
accepted answer takes the place of the query.
-/

namespace QueryPipe.Run

/-- How files are processed. -/
structure Config where
  shape : Site.Shape := {}
  shell : String := "sh"
  formatter : Option String := none
  /-- The largest source that is read, in bytes. -/
  limit : Nat := Files.defaultLimit
deriving DecidableEq, Repr

/-- The query that a command is given for a site. -/
def queryOf (site : Site) : String :=
  String.ofList (Literal.query site.raw.toList)

/-- Gives queries to a command, one after the other, up to the first that cannot
be given. -/
def ask (run : Command.Runner World) (command : String) :
    List String → World → Except Command.Error (List Command.Answer) × World
  | [], world => (.ok [], world)
  | query :: rest, world =>
    match run command query world with
    | (.error cause, world) => (.error cause, world)
    | (.ok answer, world) =>
      match ask run command rest world with
      | (.error cause, world) => (.error cause, world)
      | (.ok answers, world) => (.ok (answer :: answers), world)

/-- What is decided about a site. -/
inductive Verdict where
  /-- The literal that can take the place of the site's own. -/
  | accepted (literal : String)
  | rejected (failure : Failure)
deriving DecidableEq, Repr

/-- Why an accepted template is not replaced. -/
def placeholdersChanged : String :=
  "command output does not keep the format placeholders in order; literal left unchanged"

/-- The text that an answer puts in the place of a site, before it is quoted. -/
def replacement? (site : Site) (output : String) : Option (List Char) :=
  match site.kind with
  | .plain => some output.toList
  | .template => (Literal.placeholders site.raw.toList).restore? output.toList

/-- Judges the answer to a site's query.  An answer without the placeholders of a
template is a failure only if it were to replace the template. -/
def judge (replaces : Bool) (site : Site) (answer : Command.Answer) : Verdict :=
  if !answer.isSuccess then .rejected ⟨answer.output, site.position, queryOf site⟩
  else
    match replacement? site answer.output with
    | some text => .accepted (String.ofList (Literal.requote text (.of site.raw.toList)))
    | none =>
      if replaces then .rejected ⟨placeholdersChanged, site.position, queryOf site⟩
      else .accepted site.raw

namespace Verdict

def failure? : Verdict → Option Failure
  | accepted _ => none
  | rejected failure => some failure

def literal? : Verdict → Option String
  | accepted literal => some literal
  | rejected _ => none

end Verdict

/-- A unit whose accepted sites have their new literals. -/
def edited (unit : SourceUnit) (verdicts : List Verdict) : SourceUnit :=
  { unit with slots := List.zipWith refill unit.slots verdicts }
where
  /-- A slot with what a verdict puts into it. -/
  refill (slot : Slot) (verdict : Verdict) : Slot :=
    { slot with replacement := verdict.literal? }

/-- Processes a source. -/
def process (config : Config) (run : Command.Runner World) (command path source : String)
    (replaces : Bool) (world : World) : Except Error FileResult × World :=
  match SourceUnit.ofSource path source with
  | .error cause => (.error (.parse cause), world)
  | .ok parsed =>
    let unit := parsed.locate config.shape
    match ask run command (unit.sites.map queryOf) world with
    | (.error cause, world) => (.error (.command cause), world)
    | (.ok answers, world) =>
      let verdicts := List.zipWith (judge replaces) unit.sites answers
      let failures := verdicts.filterMap Verdict.failure?
      if replaces && verdicts.any (·.literal?.isSome) then
        match canonicalize run config.formatter path (edited unit verdicts).render world with
        | (.error cause, world) => (.error cause, world)
        | (.ok output, world) =>
          (.ok { path, output := some output, failures, isChanged := true }, world)
      else (.ok { path, failures }, world)

/-- Reads a file and processes it. -/
def processFile [Files.WorkingDirectory] (config : Config) (run : Command.Runner Files.Node)
    (command path : String) (replaces : Bool) (tree : Files.Node) : Except Error FileResult × Files.Node :=
  match Files.readText tree path config.limit with
  | .error cause => (.error (.read path cause), tree)
  | .ok source => process config run command path source replaces tree

end QueryPipe.Run
