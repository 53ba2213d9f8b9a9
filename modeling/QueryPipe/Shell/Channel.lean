import QueryPipe.Shell.Expand

/-!
Redirections.
-/

namespace QueryPipe.Shell

open Text (Octets)

variable [Files.WorkingDirectory]

/-- What a file that cannot be opened is said to be. -/
def openFault : Files.Fault → String
  | .missing => "No such file"
  | .notDirectory => "No such file"
  | fault => fault.description

/-- What a file that cannot be made is said to be. -/
def createFault : Files.Fault → String
  | .missing => "Directory nonexistent"
  | .notDirectory => "Directory nonexistent"
  | fault => fault.description

/-- Opens a file for output; a new file is made empty. -/
def openOutput (appends : Bool) (path : Octets) (state : State) : Except Octets (Sink × State) :=
  if path == nullDevice then .ok (.discard, state)
  else
    let name := Octets.toText path
    let change := if appends then Files.appendBytes else Files.writeBytes
    match change state.tree name [] with
    | .error fault =>
      .error ("cannot create ".toList ++ path ++ ": ".toList ++ (createFault fault).toList)
    | .ok tree =>
      match Files.lookup tree name with
      | .ok (location, _) => .ok (.file location, { state with tree })
      | .error _ => .ok (.discard, { state with tree })

/-- The channel with a number: where it goes. -/
def sinkOf (state : State) : Octets → Option Sink
  | ['1'] => some state.output
  | ['2'] => some state.errors
  | _ => none

/-- A state whose channel goes to a sink. -/
def withSink (state : State) (channel : Nat) (sink : Sink) : State :=
  match channel with
  | 1 => { state with output := sink }
  | 2 => { state with errors := sink }
  | _ => state

/-- Makes a redirection; on failure, the complaint. -/
def redirect (setting : Setting) (substitute : Substitute) (redirection : Redirection)
    (state : State) : Except Octets State :=
  match redirection with
  | .read target =>
    let (path, state) := expandWhole setting substitute target state
    if path == nullDevice then .ok { state with input := [] }
    else
      match Files.readBytes state.tree (Octets.toText path) with
      | .ok content => .ok { state with input := Octets.ofBytes content }
      | .error .isDirectory => .ok { state with input := [] }
      | .error fault =>
        .error ("cannot open ".toList ++ path ++ ": ".toList ++ (openFault fault).toList)
  | .document body =>
    let (text, state) := expandWhole setting substitute body state
    .ok { state with input := text }
  | .write channel target =>
    let (path, state) := expandWhole setting substitute target state
    (openOutput false path state).map fun (sink, state) => withSink state channel sink
  | .append channel target =>
    let (path, state) := expandWhole setting substitute target state
    (openOutput true path state).map fun (sink, state) => withSink state channel sink
  | .copy channel source =>
    let (name, state) := expandWhole setting substitute source state
    if name == ['-'] then
      .ok (if channel == 0 then { state with input := [] } else withSink state channel .discard)
    else if channel == 0 then .ok state
    else
      match sinkOf state name with
      | some sink => .ok (withSink state channel sink)
      | none => .error (name ++ ": Bad file descriptor".toList)

/-- Makes redirections from left to right. -/
def redirectAll (setting : Setting) (substitute : Substitute) :
    List Redirection → State → Except (Octets × State) State
  | [], state => .ok state
  | redirection :: rest, state =>
    match redirect setting substitute redirection state with
    | .error complaint => .error (complaint, state)
    | .ok state => redirectAll setting substitute rest state

/-- Whether a redirection changes the input. -/
def changesInput : Redirection → Bool
  | .read _ => true
  | .document _ => true
  | .copy 0 _ => true
  | _ => false

/-- Gives the channels back after a command with redirections. -/
def restoreChannels (before : State) (redirections : List Redirection) (after : State) : State :=
  { after with
    output := before.output
    errors := before.errors
    input := if redirections.any changesInput then before.input else after.input }

end QueryPipe.Shell
