import QueryPipe.Shell.State
import QueryPipe.Shell.Tool.Printf
import QueryPipe.Shell.Tool.Sed
import QueryPipe.Shell.Tool.Tr

/-!
The commands that read, print and change files.
-/

namespace QueryPipe.Shell

open Text (Octets)

variable [Files.WorkingDirectory]

namespace Tools

/-- A command that gets its arguments and leaves a status. -/
abbrev Tool := (arguments : List Octets) → State → State

/-- Splits arguments into options and operands.  A lone dash is an operand, and
so is all that follows two dashes. -/
def options : List Octets → List Octets × List Octets
  | [] => ([], [])
  | argument :: rest =>
    if argument == ['-', '-'] then ([], rest)
    else
      let (found, operands) := options rest
      match argument with
      | '-' :: _ :: _ => (argument :: found, operands)
      | _ => (found, argument :: operands)

/-- The letters of options. -/
def letters (options : List Octets) : List Char :=
  options.flatMap (·.drop 1)

/-- Complains the way a tool does and fails. -/
def complain (name message : String) (state : State) : State :=
  (state.complainText (name ++ ": " ++ message)).fail 1

/-- Complains about wrong usage. -/
def misused (name message : String) (state : State) : State :=
  (complain name message state).complainText
    ("Try '" ++ name ++ " --help' for more information.")

/-- Complains about the first option that is not known; otherwise goes on. -/
def checked (name : String) (known : List Char) (options : List Octets) (state : State)
    (next : State → State) : State :=
  match (letters options).find? (!known.contains ·) with
  | some letter =>
    misused name ("invalid option -- '" ++ String.singleton letter ++ "'") state
  | none => next state

/-- All of the input. -/
def takeInput (state : State) : Octets × State :=
  (state.input, { state with input := [] })

/-- The content of a file that an operand names. -/
def readOperand (state : State) (operand : Octets) : Except Files.Fault Octets :=
  if operand == nullDevice then .ok []
  else (Files.readBytes state.tree (Octets.toText operand)).map Octets.ofBytes

def cat : Tool := fun arguments state =>
  let (options, operands) := options arguments
  checked "cat" ['u'] options state fun state =>
    (if operands.isEmpty then [['-']] else operands).foldl (fun state operand =>
      if operand == ['-'] then
        let (text, state) := takeInput state
        state.print text
      else
        match readOperand state operand with
        | .ok content => state.print content
        | .error fault => complain "cat" (Octets.toText operand ++ ": " ++ fault.description) state)
      state.succeed

def tr : Tool := fun arguments state =>
  let (options, operands) := options arguments
  checked "tr" ['c', 'C', 'd', 's'] options state fun state =>
    let given := letters options
    let chosen : Tool.TrOptions := {
      deletes := given.contains 'd'
      complements := given.contains 'c' || given.contains 'C'
      squeezes := given.contains 's' }
    let replace (first second : Octets) : State :=
      match Tool.Tr.reversedRange? first <|> Tool.Tr.reversedRange? second with
      | some range => complain "tr" ("range-endpoints of '" ++ Octets.toText range
          ++ "' are in reverse collating sequence order") state
      | none =>
        let (text, state) := takeInput state
        (state.print (Tool.tr chosen first second text)).succeed
    let extra (operand : Octets) : String := "extra operand '" ++ Octets.toText operand ++ "'"
    match operands with
    | [] => misused "tr" "missing operand" state
    | [first] =>
      if chosen.deletes || chosen.squeezes then replace first []
      else
        misused "tr" ("missing operand after '" ++ Octets.toText first
          ++ "'\nTwo strings must be given when translating.") state
    | [first, second] =>
      if chosen.deletes && !chosen.squeezes then
        misused "tr" (extra second
          ++ "\nOnly one string may be given when deleting without squeezing repeats.") state
      else if !chosen.deletes && second.isEmpty then
        complain "tr" "when not truncating set1, string2 must be non-empty" state
      else replace first second
    | _ :: second :: third :: _ =>
      misused "tr" (extra (if chosen.deletes && !chosen.squeezes then second else third)) state

/-- What `sed` is asked to do. -/
structure SedOptions where
  isQuiet : Bool := false
  way : Tool.Regex.Dialect := .basic
  scripts : List Octets := []
  operands : List Octets := []

/-- Reads the arguments of `sed`. -/
def sedOptions : SedOptions → List Octets → SedOptions
  | given, [] => given
  | given, argument :: rest =>
    if argument == ['-', 'n'] then sedOptions { given with isQuiet := true } rest
    else if argument == ['-', 'E'] || argument == ['-', 'r'] then
      sedOptions { given with way := .extended } rest
    else if argument == ['-', 'e'] then
      match rest with
      | script :: rest => sedOptions { given with scripts := given.scripts ++ [script] } rest
      | [] => given
    else sedOptions { given with operands := given.operands ++ [argument] } rest

def sed : Tool := fun arguments state =>
  let given := sedOptions {} arguments
  let (script, operands) := match given.scripts, given.operands with
    | [], script :: operands => (script, operands)
    | scripts, operands => (List.intercalate ['\n'] scripts, operands)
  let (text, state) :=
    if operands.isEmpty then takeInput state.succeed
    else operands.foldl (fun (text, state) operand =>
      match readOperand state operand with
      | .ok content => (text ++ content, state)
      | .error fault =>
        (text, (state.complainText ("sed: can't read " ++ Octets.toText operand ++ ": "
          ++ fault.description)).fail 2)) ([], state.succeed)
  match Tool.sed given.way given.isQuiet script text with
  | .ok printed => state.print printed
  | .error message => (state.complainText message).fail 1

/-- The numbers that `wc` prints for a text. -/
def counts (given : List Char) (text : Octets) : List Nat :=
  let isWordBlank (char : Char) : Bool := char == ' ' || ('\t' ≤ char && char ≤ '\r')
  let wordCount := (text.foldl (fun (count, inside) char =>
    if isWordBlank char then (count, false)
    else if inside then (count, true) else (count + 1, true)) (0, false)).1
  let all := given.isEmpty
  (if all || given.contains 'l' then [text.count '\n'] else [])
    ++ (if all || given.contains 'w' then [wordCount] else [])
    ++ (if all || given.contains 'c' || given.contains 'm' then [text.length] else [])

/-- A number with blanks before it. -/
def padded (width number : Nat) : Octets :=
  let digits := (toString number).toList
  List.replicate (width - digits.length) ' ' ++ digits

def wc : Tool := fun arguments state =>
  let (options, operands) := options arguments
  checked "wc" ['c', 'l', 'm', 'w'] options state fun state =>
    let given := letters options
    let row (width : Nat) (text name : Octets) : Octets :=
      List.intercalate [' '] ((counts given text).map (padded width)
        ++ (if name.isEmpty then [] else [name])) ++ ['\n']
    if operands.isEmpty then
      let (text, state) := takeInput state
      let width := if (counts given text).length == 1 then 1 else 7
      (state.print (row width text [])).succeed
    else
      operands.foldl (fun state operand =>
        match readOperand state operand with
        | .ok content => state.print (row 1 content operand)
        | .error fault => complain "wc" (Octets.toText operand ++ ": " ++ fault.description) state)
        state.succeed

/-- Removes what one path names. -/
def removeOne (isRecursive isForced : Bool) (state : State) (operand : Octets) : State :=
  let path := Octets.toText operand
  let refuse (fault : Files.Fault) : State :=
    complain "rm" ("cannot remove '" ++ path ++ "': " ++ fault.description) state
  match Files.resolve state.tree path false with
  | .ok ⟨location, some node⟩ =>
    if node.isDirectory && !isRecursive then refuse .isDirectory
    else if location.isEmpty then
      complain "rm" ("refusing to remove '.' or '..' directory: skipping '" ++ path ++ "'") state
    else { state with tree := state.tree.erase location }
  | .ok ⟨_, none⟩ => if isForced then state else refuse .missing
  | .error fault =>
    if isForced && (fault == .missing || fault == .notDirectory) then state else refuse fault

def rm : Tool := fun arguments state =>
  let (options, operands) := options arguments
  checked "rm" ['r', 'R', 'f', 'd', 'v', 'i'] options state fun state =>
    let given := letters options
    let isForced := given.contains 'f'
    if operands.isEmpty && !isForced then misused "rm" "missing operand" state
    else
      operands.foldl (removeOne (given.contains 'r' || given.contains 'R') isForced) state.succeed

/-- Makes one directory. -/
def makeOne (makesParents : Bool) (state : State) (operand : Octets) : State :=
  let path := Octets.toText operand
  let refuse (fault : Files.Fault) : State :=
    complain "mkdir" ("cannot create directory '" ++ path ++ "': " ++ fault.description) state
  if makesParents then
    match Files.makeDirectories state.tree path with
    | .ok tree => { state with tree }
    | .error fault => refuse fault
  else
    match Files.makeDirectory state.tree path with
    | .ok tree => { state with tree }
    | .error fault => refuse fault

def mkdir : Tool := fun arguments state =>
  let (options, operands) := options arguments
  checked "mkdir" ['p', 'v'] options state fun state =>
    if operands.isEmpty then misused "mkdir" "missing operand" state
    else operands.foldl (makeOne ((letters options).contains 'p')) state.succeed

/-- Time does not pass in a script. -/
def sleep : Tool := fun arguments state =>
  if arguments.isEmpty then misused "sleep" "missing operand" state else state.succeed

/-- The commands that are programs of their own. -/
def program? : String → Option Tool
  | "true" => some fun _ state => state.succeed
  | "false" => some fun _ state => state.fail 1
  | "echo" => some fun arguments state => (state.print (Tool.echo false arguments)).succeed
  | "cat" => some cat
  | "tr" => some tr
  | "sed" => some sed
  | "wc" => some wc
  | "rm" => some rm
  | "mkdir" => some mkdir
  | "sleep" => some sleep
  | _ => none

/-! ## Commands of the shell itself -/

/-- One line of the input without its end, and whether it was ended.  Unless
`isRaw` holds, a backslash takes the character after it as it is. -/
def readLine (isRaw : Bool) : (fuel : Nat) → List Pattern.Glyph → Octets →
    List Pattern.Glyph × Bool × Octets
  | 0, line, rest => (line.reverse, false, rest)
  | _ + 1, line, [] => (line.reverse, false, [])
  | fuel + 1, line, char :: rest =>
    if char == '\n' then (line.reverse, true, rest)
    else if char == '\\' && !isRaw then
      match rest with
      | '\n' :: rest => readLine isRaw fuel line rest
      | escaped :: rest => readLine isRaw fuel ((escaped, true) :: line) rest
      | [] => (line.reverse, false, [])
    else readLine isRaw fuel ((char, false) :: line) rest

/-- Shares a line among variables; the last one gets all that is left. -/
def shareLine (isBlank : Pattern.Glyph → Bool) : List Octets → List Pattern.Glyph →
    State → State
  | [], _, state => state
  | [name], line, state =>
    let text := ((line.dropWhile isBlank).reverse.dropWhile isBlank).reverse
    state.assign name (text.map (·.1))
  | name :: names, line, state =>
    let line := line.dropWhile isBlank
    let field := line.takeWhile (!isBlank ·)
    shareLine isBlank names (line.dropWhile (!isBlank ·)) (state.assign name (field.map (·.1)))

def read : Tool := fun arguments state =>
  let (options, names) := options arguments
  let separators := (state.value? "IFS".toList).getD [' ', '\t', '\n']
  let isBlank (glyph : Pattern.Glyph) : Bool := separators.contains glyph.1 && !glyph.2
  let (line, isEnded, rest) :=
    readLine ((letters options).contains 'r') (state.input.length + 1) [] state.input
  (shareLine isBlank names line { state with input := rest }).fail (if isEnded then 0 else 1)

end Tools

end QueryPipe.Shell
