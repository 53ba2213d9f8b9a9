import QueryPipe.Text.Quoted

/-!
What a run does with the answers of its command.
-/

namespace QueryPipe.Run

inductive Mode where
  /-- Reports rejected queries. -/
  | lint
  /-- Also changes the files. -/
  | fmt
  /-- Also prints what would be changed. -/
  | diff
deriving DecidableEq, Repr, Inhabited

/-- A text that names no mode. -/
structure ModeError where
  text : String
deriving DecidableEq, Repr

namespace ModeError

def message (error : ModeError) : String :=
  "invalid mode " ++ Text.quoted error.text ++ ": valid modes are lint, fmt or diff"

end ModeError

namespace Mode

def name : Mode → String
  | lint => "lint"
  | fmt => "fmt"
  | diff => "diff"

/-- Whether answers take the place of queries. -/
def replaces : Mode → Bool
  | lint => false
  | fmt => true
  | diff => true

/-- The mode with exactly this name. -/
def ofName? : String → Option Mode
  | "lint" => some lint
  | "fmt" => some fmt
  | "format" => some fmt
  | "diff" => some diff
  | _ => none

/-- The mode that a text names, in letters of any case.  The letters in the names
of modes are the lower case of no letters but their own capitals. -/
def parse (text : String) : Except ModeError Mode :=
  match ofName? (String.ofList (text.toList.map Char.toLower)) with
  | some mode => .ok mode
  | none => .error ⟨text⟩

end Mode

end QueryPipe.Run
