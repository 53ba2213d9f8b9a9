import QueryPipe.Shell.Channel
import QueryPipe.Shell.Parser
import QueryPipe.Shell.Tools

/-!
Running scripts.
-/

namespace QueryPipe.Shell

open Text (Octets)

variable [Files.WorkingDirectory]

/-- Runs a command. -/
abbrev Run := Command → State → Flow × State

/-- Runs commands one after the other, until one of them leaves the script. -/
def runAll (run : Run) : List Command → State → Flow × State
  | [], state => (.next, state)
  | command :: rest, state =>
    match run command state with
    | (.next, state) => runAll run rest state
    | (.exit, state) => (.exit, state)

/-- What follows a part that ran on its own: only a signal ends the script too. -/
def afterOwn (state : State) : Flow :=
  if state.signal?.isSome then .exit else .next

/-- Runs something whose variables are its own. -/
def onItsOwn (run : State → Flow × State) (state : State) : Flow × State :=
  let (_, after) := run state
  let after := { after with
    bindings := state.bindings
    output := state.output
    errors := state.errors }
  (afterOwn after, after)

/-- Runs something and takes what it prints. -/
def captured (run : State → Flow × State) (state : State) : Octets × State :=
  let (_, after) := onItsOwn run state.openBuffer
  after.closeBuffer state.output

/-- Runs the commands of a pipeline: each one reads what the one before it has
printed, and starts with the status from before the pipeline. -/
def runPipes (run : Run) : List Command → State → Flow × State
  | [], state => (.next, state)
  | [command], state => onItsOwn (run command) state
  | command :: rest, state =>
    let (text, after) := captured (run command) state
    if after.signal?.isSome then (.exit, after)
    else
      let left := after.input
      let (flow, last) := runPipes run rest { after with input := text, status := state.status }
      (flow, { last with input := left })

/-- Runs a script that has been read.  A part that cannot be read ends it. -/
def runScript (setting : Setting) (run : Run) (script : Script) (state : State) : Flow × State :=
  match runAll run script.commands state with
  | (.exit, state) => (.exit, state)
  | (.next, state) =>
    match script.failure? with
    | none => (.next, state)
    | some failure =>
      (.exit, (state.complain (setting.place failure.line ++ failure.message.toList)).fail 2)

/-- The output of a script without line ends behind it.  Zero bytes are lost. -/
def substituted (setting : Setting) (run : Run) : Substitute := fun source line state =>
  let script := parse line source
  let (text, state) := captured (runScript setting run script) { state with status := 0 }
  (((text.filter (· != '\x00')).reverse.dropWhile (· == '\n')).reverse, state)

/-- Whether a word holds a substitution. -/
def substitutes (word : Word) : Bool :=
  word.any fun
    | .substitution .. => true
    | _ => false

/-- Makes assignments from left to right. -/
def assignAll (setting : Setting) (substitute : Substitute) :
    List (Octets × Word) → State → State
  | [], state => state
  | (name, word) :: rest, state =>
    let (value, state) := expandWhole setting substitute word state
    assignAll setting substitute rest (state.assign name value)

/-- Gives variables back the values that they had before. -/
def unassignAll (before : State) (names : List Octets) (after : State) : State :=
  names.foldl (fun state name =>
    match before.value? name with
    | some value => state.assign name value
    | none => { state with bindings := state.bindings.filter (·.1 != name) }) after

/-! ## Commands that change the course of a script -/

/-- The numbers of signals by their names. -/
def signalNumbers : List (String × Nat) :=
  [("HUP", 1), ("INT", 2), ("QUIT", 3), ("ILL", 4), ("TRAP", 5), ("ABRT", 6), ("BUS", 7),
   ("FPE", 8), ("KILL", 9), ("USR1", 10), ("SEGV", 11), ("USR2", 12), ("PIPE", 13),
   ("ALRM", 14), ("TERM", 15), ("CHLD", 17), ("CONT", 18), ("URG", 23), ("WINCH", 28)]

/-- Signals that end nothing. -/
def harmlessSignals : List Nat := [0, 17, 18, 23, 28]

/-- The value of decimal digits. -/
def decimal? (text : Octets) : Option Nat :=
  if !text.isEmpty && text.all Char.isDigit then some (Tool.Printf.number text) else none

/-- The signal with a name or a number. -/
def signalOf? (text : Octets) : Option Nat :=
  match decimal? text with
  | some number => some number
  | none =>
    signalNumbers.lookup (String.ofList (text.map Char.toUpper))

/-- Sends a signal to a process: only the script itself is known. -/
def sendSignal (setting : Setting) (line signal : Nat) (target : Octets) (state : State) :
    Flow × State :=
  if target != ownNumber then
    (.next, (state.complain (setting.place line ++ "kill: No such process".toList)).fail 1)
  else if harmlessSignals.contains signal then (.next, state.succeed)
  else (.exit, { state with signal? := some signal })

/-- Sends signals. -/
def kill (setting : Setting) (line : Nat) (arguments : List Octets) (state : State) :
    Flow × State :=
  let refuse (complaint : Octets) : Flow × State :=
    (.next, (state.complain (setting.place line ++ "kill: ".toList ++ complaint)).fail 2)
  match arguments with
  | [] => refuse ("Usage: kill [-s sigspec | -signum | -sigspec] [pid | job]... or\n"
      ++ "kill -l [exitstatus]").toList
  | ['-', 's'] :: name :: target :: _ =>
    match signalOf? name with
    | some signal => sendSignal setting line signal target state
    | none => refuse ("invalid signal number or name: ".toList ++ name)
  | ('-' :: name) :: target :: _ =>
    match signalOf? name with
    | some signal => sendSignal setting line signal target state
    | none => refuse ("Illegal option -".toList ++ name.take 1)
  | target :: _ => sendSignal setting line 15 target state

/-- Leaves the script with a status. -/
def exit (setting : Setting) (line : Nat) (arguments : List Octets) (state : State) :
    Flow × State :=
  match arguments with
  | [] => (.exit, state)
  | argument :: _ =>
    match decimal? argument with
    | some status => (.exit, state.fail (status % 256))
    | none =>
      (.exit, (state.complain (setting.place line ++ "exit: Illegal number: ".toList
        ++ argument)).fail 2)

/-- Prints by a format.  Complaints come before what is printed, which is sent at
the end. -/
def printf (setting : Setting) (line : Nat) (arguments : List Octets) (state : State) : State :=
  let complain (state : State) (complaint : Octets) : State :=
    state.complain (setting.place line ++ "printf: ".toList ++ complaint)
  let print : List Octets → State
    | [] => (complain state "usage: printf format [arg ...]".toList).fail 2
    | format :: arguments =>
      let (text, complaints, status) := Tool.printf format arguments
      ((complaints.foldl complain state).print text).fail status
  match arguments with
  | ['-', '-'] :: rest => print rest
  | ('-' :: letter :: _) :: _ => (complain state ("Illegal option -".toList ++ [letter])).fail 2
  | _ => print arguments

/-- Runs the script in a file. -/
abbrev RunFile := (name : Octets) → (content : Octets) → (arguments : List Octets) → State → State

/-- Directories of the programs that are always there. -/
def systemDirectories : List String := ["/bin/", "/usr/bin/"]

/-- The program that a path outside the tree names. -/
def systemProgram? (path : String) : Option String :=
  systemDirectories.findSome? fun directory =>
    if directory.toList.isPrefixOf path.toList then some (path.drop directory.length).toString
    else none

/-- The first file with a name on the search path that can be executed. -/
def searched? (setting : Setting) (tree : Files.Node) (name : String) : Option String :=
  (setting.searchPath.map (Files.Path.join · name)).find? (Files.isExecutableFile tree)

/-- Runs a command that is a program or a file.  Complaints begin with
`announcement`. -/
def runProgram (setting : Setting) (runFile : RunFile) (announcement : Octets) (line : Nat)
    (name : Octets) (arguments : List Octets) (state : State) : State :=
  let text := Octets.toText name
  let missing : State := (state.complain (setting.notFound line (announcement ++ name))).fail 127
  let runPath (path : String) : State :=
    match Files.readBytes state.tree path with
    | .ok content => runFile (Octets.ofString path) (Octets.ofBytes content) arguments state
    | .error _ => missing
  let runTool (tool? : Option Tools.Tool) : State :=
    match tool? with
    | some tool => tool arguments state
    | none => missing
  if name.contains '/' then
    if Files.isExecutableFile state.tree text then runPath text
    else
      match Files.lookup state.tree text with
      | .ok _ =>
        (state.complain (setting.place line ++ announcement ++ name
          ++ ": Permission denied".toList)).fail 126
      | .error _ =>
        match systemProgram? text with
        | some program => runTool (Tools.program? program)
        | none => runTool none
  else
    match searched? setting state.tree text with
    | some path => runPath path
    | none => runTool (Tools.program? text)

/-- Runs a command by its name. -/
def runNamed (setting : Setting) (runFile : RunFile) (line : Nat) (name : Octets)
    (arguments : List Octets) (state : State) : Flow × State :=
  match String.ofList name with
  | ":" => (.next, state.succeed)
  | "true" => (.next, state.succeed)
  | "false" => (.next, state.fail 1)
  | "echo" => (.next, (state.print (Tool.echo setting.echoReadsEscapes arguments)).succeed)
  | "printf" => (.next, printf setting line arguments state)
  | "read" => (.next, Tools.read arguments state)
  | "exit" => exit setting line arguments state
  | "kill" => kill setting line arguments state
  | _ => (.next, runProgram setting runFile [] line name arguments state)

/-- Runs a simple command. -/
def runSimple (setting : Setting) (substitute : Substitute) (runFile : RunFile) (line : Nat)
    (assignments : List (Octets × Word)) (words : List Word) (redirections : List Redirection)
    (state : State) : Flow × State :=
  let (arguments, expanded) := expandWords setting substitute words state
  if expanded.signal?.isSome then (.exit, expanded)
  else
    let isSubstituting := words.any substitutes || assignments.any (substitutes ·.2)
    match redirectAll setting substitute redirections expanded with
    | .error (complaint, failed) =>
      (.next, (restoreChannels state redirections
        (failed.complain (setting.place line ++ complaint))).fail 2)
    | .ok redirected =>
      let assigned := assignAll setting substitute assignments redirected
      if assigned.signal?.isSome then (.exit, assigned)
      else
        match arguments with
        | [] =>
          let after := if isSubstituting then assigned else assigned.succeed
          (.next, restoreChannels state redirections after)
        | name :: arguments =>
          if name == "exec".toList then
            match arguments with
            | [] => (.next, assigned.succeed)
            | program :: arguments =>
              (.exit, runProgram setting runFile "exec: ".toList line program arguments assigned)
          else
            let (flow, after) := runNamed setting runFile line name arguments assigned
            (flow, restoreChannels state redirections
              (unassignAll expanded (assignments.map (·.1)) after))

/-- The body of the first branch with a pattern that covers a text. -/
def selectBranch (setting : Setting) (substitute : Substitute) (text : Octets) :
    List (List Word × Command) → State → Option Command × State
  | [], state => (none, state)
  | (patterns, body) :: rest, state =>
    let (isCovered, state) := patterns.foldl (fun (isCovered, state) word =>
      let (pattern, state) := expandPattern setting substitute word state
      (isCovered || pattern.covers text, state)) (false, state)
    if isCovered then (some body, state) else selectBranch setting substitute text rest state

/-- Repeats a loop; `fuel` bounds the rounds. -/
def runLoop (run : Run) (isUntil : Bool) (test body : Command) :
    (fuel : Nat) → (status : Nat) → State → Flow × State
  | 0, status, state => (.next, state.fail status)
  | fuel + 1, status, state =>
    match run test state with
    | (.exit, state) => (.exit, state)
    | (.next, state) =>
      if (state.status == 0) == isUntil then (.next, state.fail status)
      else
        match run body state with
        | (.exit, state) => (.exit, state)
        | (.next, state) => runLoop run isUntil test body fuel state.status state

/-- How often a loop runs at most. -/
def loopLimit : Nat := 100000

/-- Runs a command.  Each step of `fuel` goes one level deeper: into a part of the
command, a substitution or a file. -/
def eval : (fuel : Nat) → Setting → Command → State → Flow × State
  | 0, _, _, state => (.exit, state.fail 2)
  | fuel + 1, setting, command, state =>
    let run := eval fuel setting
    let substitute := substituted setting run
    let runFile : RunFile := fun name content arguments state =>
      let own := { setting with name, arguments }
      let (_, after) := onItsOwn (runScript own (eval fuel own) (parse 1 content))
        { state with bindings := [], status := 0 }
      { after with
        bindings := state.bindings
        status := match after.signal? with
          | some signal => 128 + signal
          | none => after.status
        signal? := none }
    match command with
    | .simple line assignments words redirections =>
      runSimple setting substitute runFile line assignments words redirections state
    | .sequence [] => (.next, state.succeed)
    | .sequence commands => runAll run commands state
    | .pipeline commands => runPipes run commands state
    | .negation command =>
      match run command state with
      | (.next, after) => (.next, after.fail (if after.status == 0 then 1 else 0))
      | (.exit, after) => (.exit, after)
    | .both first second =>
      match run first state with
      | (.next, after) => if after.status == 0 then run second after else (.next, after)
      | (.exit, after) => (.exit, after)
    | .either first second =>
      match run first state with
      | (.next, after) => if after.status == 0 then (.next, after) else run second after
      | (.exit, after) => (.exit, after)
    | .subshell body => onItsOwn (run body) state
    | .selection subject branches =>
      let (text, state) := expandWhole setting substitute subject state
      match selectBranch setting substitute text branches state with
      | (some body, state) => run body state
      | (none, state) => (.next, state.succeed)
    | .conditional test body otherwise =>
      match run test state with
      | (.next, after) => if after.status == 0 then run body after else run otherwise after
      | (.exit, after) => (.exit, after)
    | .loop isUntil test body => runLoop run isUntil test body loopLimit 0 state
    | .redirected command redirections =>
      match redirectAll setting substitute redirections state with
      | .error (complaint, failed) =>
        (.next, (restoreChannels state redirections
          (failed.complain (setting.place 0 ++ complaint))).fail 2)
      | .ok redirected =>
        let (flow, after) := run command redirected
        (flow, restoreChannels state redirections after)

end QueryPipe.Shell
