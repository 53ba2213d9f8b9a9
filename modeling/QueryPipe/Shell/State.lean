import QueryPipe.Files.Store
import QueryPipe.Shell.Script

/-!
What a running script sees and changes.
-/

namespace QueryPipe.Shell

open Text (Octets)

/-- A device that is always empty and swallows all that is sent to it. -/
def nullDevice : Octets := "/dev/null".toList

/-- Where a channel goes. -/
inductive Sink where
  /-- A text that is collected: the first two are the output and the error output
  of the whole script, later ones belong to pipes and substitutions. -/
  | buffer (index : Nat)
  | file (location : Files.Location)
  | discard
deriving DecidableEq, Repr

/-- What is fixed while a script runs. -/
structure Setting where
  /-- The name that the script goes by. -/
  name : Octets
  arguments : List Octets := []
  /-- Directories whose executable files are commands. -/
  searchPath : List String := []
  /-- Whether `echo` reads escapes. -/
  echoReadsEscapes : Bool := true
  /-- Whether complaints are worded at length. -/
  isVerbose : Bool := false

/-- What a script changes. -/
structure State where
  tree : Files.Node
  buffers : List Octets
  input : Octets
  bindings : List (Octets × Octets) := []
  output : Sink := .buffer 0
  errors : Sink := .buffer 1
  status : Nat := 0
  /-- The signal that has ended the script. -/
  signal? : Option Nat := none

/-- Whether the script goes on after a command. -/
inductive Flow where
  | next
  | exit
deriving DecidableEq, Repr

namespace State

/-- Sends a text to a sink. -/
def send (state : State) (sink : Sink) (text : Octets) : State :=
  match sink with
  | .discard => state
  | .buffer index =>
    { state with buffers := state.buffers.modify index (· ++ text) }
  | .file location =>
    match state.tree.get? location with
    | some (.file content isExecutable) =>
      let longer := content ++ Octets.toBytes text
      { state with tree := state.tree.put (.file longer isExecutable) location }
    | _ => state

/-- Prints a text. -/
def print (state : State) (text : Octets) : State := state.send state.output text

/-- Prints a line of complaint. -/
def complain (state : State) (message : Octets) : State :=
  state.send state.errors (message ++ ['\n'])

/-- Prints a line of complaint. -/
def complainText (state : State) (message : String) : State :=
  state.complain (Octets.ofString message)

def fail (state : State) (status : Nat) : State := { state with status }

def succeed (state : State) : State := { state with status := 0 }

/-- The value of a variable. -/
def value? (state : State) (name : Octets) : Option Octets :=
  state.bindings.lookup name

def assign (state : State) (name value : Octets) : State :=
  { state with bindings := (name, value) :: state.bindings.filter (·.1 != name) }

/-- Opens a new buffer for the output of a command. -/
def openBuffer (state : State) : State :=
  { state with
    buffers := state.buffers ++ [[]]
    output := .buffer state.buffers.length }

/-- Closes the buffer opened last; the output goes where it went `before`. -/
def closeBuffer (state : State) (before : Sink) : Octets × State :=
  ((state.buffers.getLast?).getD [],
    { state with buffers := state.buffers.dropLast, output := before })

end State

namespace Setting

/-- The beginning of a complaint about a line of the script. -/
def place (setting : Setting) (line : Nat) : Octets :=
  setting.name ++ (if setting.isVerbose then ": line " else ": ").toList
    ++ (toString line).toList ++ ": ".toList

/-- The complaint about a command that does not exist. -/
def notFound (setting : Setting) (line : Nat) (name : Octets) : Octets :=
  setting.place line ++ name
    ++ (if setting.isVerbose then ": command not found" else ": not found").toList

end Setting

end QueryPipe.Shell
