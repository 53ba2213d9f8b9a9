import QueryPipe.Shell.Eval

/-!
Starting a shell on a script.
-/

namespace QueryPipe.Shell

open Text (Octets)

variable [Files.WorkingDirectory]

/-- Why a shell cannot be started. -/
inductive LaunchError where
  /-- A name or an argument holds a zero byte. -/
  | nulByte
  | system (fault : Files.Fault)
deriving DecidableEq, Repr

namespace LaunchError

def message : LaunchError → String
  | nulByte => "nul byte found in provided data"
  | system fault => fault.message

end LaunchError

/-- What a script leaves. -/
structure Outcome where
  /-- All that was printed, followed by all errors that were not redirected. -/
  printed : List UInt8
  /-- The exit status; none if a signal ended the script. -/
  status? : Option Nat
  tree : Files.Node

/-- A program that can be started as a shell. -/
inductive Interpreter where
  /-- A shell that reads escapes in `echo`. -/
  | plain
  /-- A shell that does not, and words its complaints at length. -/
  | verbose
  /-- A program that is no shell. -/
  | program (name : String)
  /-- A file with a script. -/
  | file (path : String)
deriving DecidableEq, Repr

/-- The programs that are there in every environment. -/
def interpreterNamed? : String → Option Interpreter
  | "sh" => some .plain
  | "dash" => some .plain
  | "bash" => some .verbose
  | name => (Tools.program? name).map fun _ => .program name

/-- The interpreter that a name leads to. -/
def interpreter (searchPath : List String) (tree : Files.Node) (shell : String) :
    Except Files.Fault Interpreter :=
  if shell.toList.contains '/' then
    match Files.lookup tree shell with
    | .ok (_, .file _ true) => .ok (.file shell)
    | .ok _ => .error .notPermitted
    | .error fault =>
      match (systemProgram? shell).bind interpreterNamed? with
      | some found => .ok found
      | none => .error fault
  else
    match (searchPath.map (Files.Path.join · shell)).find? (Files.isExecutableFile tree) with
    | some path => .ok (.file path)
    | none =>
      match interpreterNamed? shell with
      | some found => .ok found
      | none => .error .missing

/-- How deeply commands, substitutions and files may be nested. -/
def depthLimit : Nat := 1000

/-- The outcome of a run. -/
def outcome (state : State) : Outcome :=
  { printed := Octets.toBytes state.buffers.flatten
    status? := if state.signal?.isSome then none else some state.status
    tree := state.tree }

/-- Runs a script with a shell. -/
def runWith (interpreter : Interpreter) (searchPath : List String) (shell : String)
    (script input : Octets) (tree : Files.Node) : Outcome :=
  let state : State := { tree, buffers := [[], []], input }
  let name := Octets.ofString shell
  let arguments := [['-', 'c'], script]
  let interpret (setting : Setting) (source : Octets) : Outcome :=
    outcome (runScript setting (eval depthLimit setting) (parse 1 source) state).2
  match interpreter with
  | .plain => interpret { name, searchPath } script
  | .verbose => interpret { name, searchPath, echoReadsEscapes := false, isVerbose := true } script
  | .program program =>
    match Tools.program? program with
    | some tool => outcome (tool arguments state)
    | none => outcome (state.fail 127)
  | .file path =>
    match Files.readBytes tree path with
    | .ok content => interpret { name, arguments, searchPath } (Octets.ofBytes content)
    | .error _ => outcome (state.fail 127)

/-- Starts a shell on a script: `<shell> -c <script>`. -/
def launch (searchPath : List String) (shell script input : String) (tree : Files.Node) :
    Except LaunchError Outcome :=
  if shell.toList.contains '\x00' || script.toList.contains '\x00' then .error .nulByte
  else
    match interpreter searchPath tree shell with
    | .error fault => .error (.system fault)
    | .ok interpreter =>
      .ok (runWith interpreter searchPath shell (Octets.ofString script) (Octets.ofString input)
        tree)

end QueryPipe.Shell
