import QueryPipe.Shell.Token

/-!
From the tokens of a script to its commands.
-/

namespace QueryPipe.Shell

open Text (Octets)

/-- What is left to read. -/
structure Unread where
  tokens : List Token
  /-- Documents whose announcements have not been read yet. -/
  documents : List Word
  /-- The last line of the script. -/
  lastLine : Nat

/-- A reader of commands. -/
abbrev Reader := StateT Unread (Except Failure)

namespace Reader

/-- The next token. -/
def peek : Reader (Option Token) := do
  return (← get).tokens.head?

def skip : Reader Unit :=
  modify fun unread => { unread with tokens := unread.tokens.drop 1 }

/-- Complains about the next token; the complaint ends in `expectation`. -/
def refuse (expectation : String) : Reader α := do
  let unread ← get
  match unread.tokens with
  | token :: _ =>
    throw ⟨token.line,
      "Syntax error: " ++ Token.describe token.kind ++ " unexpected" ++ expectation⟩
  | [] => throw ⟨unread.lastLine, endUnexpected ++ expectation⟩

/-- Complains about the next token. -/
def unexpected : Reader α := refuse ""

/-- Complains that the next token is not what is expected. -/
def expecting (text : String) : Reader α := refuse (" (expecting \"" ++ text ++ "\")")

/-- Whether the next token is an operator. -/
def atOperator (text : String) : Reader Bool := do
  return (← peek).any (·.kind == .operator text)

/-- Whether the next token is a word that is written without quotes. -/
def atKeyword (text : String) : Reader Bool := do
  return (← peek).any (Token.plainText? ·.kind == some text)

def atLineEnd : Reader Bool := do
  return (← peek).any (·.kind == .lineEnd)

/-- Reads an operator if it comes next. -/
def takeOperator (text : String) : Reader Bool := do
  if ← atOperator text then
    skip
    return true
  else return false

def takeKeyword (text : String) : Reader Bool := do
  if ← atKeyword text then
    skip
    return true
  else return false

/-- Reads what separates a command from the next one on its line. -/
def takeSeparator : Reader Bool := do
  if ← takeOperator ";" then return true
  else takeOperator "&"

def expectOperator (text : String) : Reader Unit := do
  if !(← takeOperator text) then expecting text

def expectKeyword (text : String) : Reader Unit := do
  if !(← takeKeyword text) then expecting text

/-- Skips line ends. -/
def skipLineEnds : Reader Unit :=
  modify fun unread => { unread with tokens := unread.tokens.dropWhile (·.kind == .lineEnd) }

def takeWord : Reader Word := do
  match ← peek with
  | some ⟨.word word, _⟩ =>
    skip
    return word
  | _ => unexpected

/-- The next document of the script. -/
def takeDocument : Reader Word := do
  let unread ← get
  set { unread with documents := unread.documents.drop 1 }
  return unread.documents.head?.getD []

end Reader

open Reader

/-- Reads a redirection of a channel, or of the channel that its operator
implies. -/
def readRedirection (channel? : Option Nat) : Reader Redirection := do
  match ← peek with
  | some ⟨.operator operator, _⟩ =>
    skip
    let target ← takeWord
    match operator with
    | "<" => return .read target
    | ">" => return .write (channel?.getD 1) target
    | ">|" => return .write (channel?.getD 1) target
    | ">>" => return .append (channel?.getD 1) target
    | ">&" => return .copy (channel?.getD 1) target
    | "<&" => return .copy (channel?.getD 0) target
    | "<<" => return .document (← takeDocument)
    | "<<-" => return .document (← takeDocument)
    | _ => unexpected
  | _ => unexpected

/-- Whether an operator redirects a channel. -/
def isRedirection (operator : String) : Bool :=
  ["<", ">", ">|", ">>", ">&", "<&", "<<", "<<-"].contains operator

/-- Reads redirections as long as there are any. -/
def readRedirections : (fuel : Nat) → Reader (List Redirection)
  | 0 => return []
  | fuel + 1 => do
    match ← peek with
    | some ⟨.channel number, _⟩ =>
      skip
      let redirection ← readRedirection (some number)
      return redirection :: (← readRedirections fuel)
    | some ⟨.operator operator, _⟩ =>
      if isRedirection operator then
        let redirection ← readRedirection none
        return redirection :: (← readRedirections fuel)
      else return []
    | _ => return []

/-- A word of the form `name=value`. -/
def assignment? : Word → Option (Octets × Word)
  | .text content false :: rest =>
    let name := content.takeWhile (· != '=')
    match content.dropWhile (· != '=') with
    | _ :: value =>
      if name.head?.any isNameStart && name.all isNameChar then
        some (name, if value.isEmpty then rest else .text value false :: rest)
      else none
    | [] => none
  | _ => none

/-- The parts of a simple command. -/
structure Simple where
  assignments : List (Octets × Word) := []
  words : List Word := []
  redirections : List Redirection := []

/-- Reads the words and redirections of a simple command.  Assignments stand
before the first word. -/
def readSimple : (fuel : Nat) → Simple → Reader Simple
  | 0, simple => return simple
  | fuel + 1, simple => do
    match ← peek with
    | some ⟨.word word, _⟩ =>
      skip
      match simple.words, assignment? word with
      | [], some assignment =>
        readSimple fuel { simple with assignments := simple.assignments ++ [assignment] }
      | _, _ => readSimple fuel { simple with words := simple.words ++ [word] }
    | some ⟨.channel number, _⟩ =>
      skip
      let redirection ← readRedirection (some number)
      readSimple fuel { simple with redirections := simple.redirections ++ [redirection] }
    | some ⟨.operator operator, _⟩ =>
      if isRedirection operator then
        let redirection ← readRedirection none
        readSimple fuel { simple with redirections := simple.redirections ++ [redirection] }
      else return simple
    | _ => return simple

/-- Reads patterns between bars. -/
def readPatterns : (fuel : Nat) → Reader (List Word)
  | 0 => unexpected
  | fuel + 1 => do
    if (← peek).isNone then expecting ")"
    let pattern ← takeWord
    if ← takeOperator "|" then return pattern :: (← readPatterns fuel)
    else return [pattern]

/-- Words that end a list of commands. -/
def closingKeywords : List String :=
  ["\x7d", "esac", "fi", "done", "do", "then", "else", "elif"]

/-- Whether a list of commands ends here. -/
def atListEnd : Reader Bool := do
  match ← peek with
  | none => return true
  | some token =>
    return token.kind == .operator ")" || token.kind == .operator ";;"
      || (Token.plainText? token.kind).any closingKeywords.contains

/-- Reads the branches of a selection, with a reader for their bodies. -/
def readBranches (readBody : Reader Command) : (fuel : Nat) → Reader (List (List Word × Command))
  | 0 => unexpected
  | fuel + 1 => do
    skipLineEnds
    if ← takeKeyword "esac" then return []
    else
      let _ ← takeOperator "("
      let patterns ← readPatterns (fuel + 1)
      expectOperator ")"
      let body ← readBody
      if ← takeOperator ";;" then return (patterns, body) :: (← readBranches readBody fuel)
      else if ← takeKeyword "esac" then return [(patterns, body)]
      else expecting ";;"

/-- Reads what follows the test of a conditional, up to its end. -/
def readConditional (readBody : Reader Command) : (fuel : Nat) → Reader Command
  | 0 => unexpected
  | fuel + 1 => do
    let test ← readBody
    expectKeyword "then"
    let body ← readBody
    if ← takeKeyword "elif" then
      return .conditional test body (← readConditional readBody fuel)
    else if ← takeKeyword "else" then
      let otherwise ← readBody
      expectKeyword "fi"
      return .conditional test body otherwise
    else
      expectKeyword "fi"
      return .conditional test body (.sequence [])

/-- Reads commands between line ends and semicolons, up to the end of a list.  A
list may hold no command. -/
def readListWith (readOne : Reader Command) : (fuel : Nat) → Reader (List Command)
  | 0 => unexpected
  | fuel + 1 => do
    skipLineEnds
    if ← atListEnd then return []
    else
      let command ← readOne
      if ← takeSeparator then
        return command :: (← readListWith readOne fuel)
      else if ← atLineEnd then return command :: (← readListWith readOne fuel)
      else return [command]

/-- Adds redirections to a command that has any. -/
def withRedirections (command : Command) (redirections : List Redirection) : Command :=
  if redirections.isEmpty then command else .redirected command redirections

/-- Reads a command, with a reader for lists of commands. -/
def readCommand (fuel : Nat) (readList : Reader Command) : Reader Command := do
  match ← peek with
  | none => unexpected
  | some token =>
    if ← takeOperator "(" then
      let body ← readList
      expectOperator ")"
      return withRedirections (.subshell body) (← readRedirections fuel)
    else if ← takeKeyword "\x7b" then
      let body ← readList
      expectKeyword "\x7d"
      return withRedirections body (← readRedirections fuel)
    else if ← takeKeyword "case" then
      let subject ← takeWord
      skipLineEnds
      expectKeyword "in"
      let branches ← readBranches readList fuel
      return withRedirections (.selection subject branches) (← readRedirections fuel)
    else if ← takeKeyword "if" then
      let conditional ← readConditional readList fuel
      return withRedirections conditional (← readRedirections fuel)
    else if (← atKeyword "while") || (← atKeyword "until") then
      let isUntil ← takeKeyword "until"
      if !isUntil then skip
      let test ← readList
      expectKeyword "do"
      let body ← readList
      expectKeyword "done"
      return withRedirections (.loop isUntil test body) (← readRedirections fuel)
    else if (← atListEnd) || (← atKeyword "!") then unexpected
    else
      let simple ← readSimple fuel {}
      if simple.assignments.isEmpty && simple.words.isEmpty && simple.redirections.isEmpty then
        unexpected
      else return .simple token.line simple.assignments simple.words simple.redirections

/-- Reads commands between bars. -/
def readPipes (readOne : Reader Command) : (fuel : Nat) → Reader (List Command)
  | 0 => unexpected
  | fuel + 1 => do
    let command ← readOne
    if ← takeOperator "|" then
      skipLineEnds
      return command :: (← readPipes readOne fuel)
    else return [command]

/-- Reads a pipeline. -/
def readPipeline (fuel : Nat) (readOne : Reader Command) : Reader Command := do
  let isNegated ← takeKeyword "!"
  let commands ← readPipes readOne fuel
  let command := match commands with
    | [command] => command
    | commands => .pipeline commands
  return if isNegated then .negation command else command

/-- Reads what follows a pipeline in a chain. -/
def readChain (readOne : Reader Command) : (fuel : Nat) → Command → Reader Command
  | 0, first => return first
  | fuel + 1, first => do
    if ← takeOperator "&&" then
      skipLineEnds
      readChain readOne fuel (.both first (← readOne))
    else if ← takeOperator "||" then
      skipLineEnds
      readChain readOne fuel (.either first (← readOne))
    else return first

/-- Reads a chain of pipelines.  The `depth` bounds how deeply commands are
nested. -/
def readAndOr (fuel : Nat) : (depth : Nat) → Reader Command
  | 0 => unexpected
  | depth + 1 => do
    let readList : Reader Command := do
      return .sequence (← readListWith (readAndOr fuel depth) fuel)
    let readOne := readPipeline fuel (readCommand fuel readList)
    readChain readOne fuel (← readOne)

/-- Reads the commands of one line. -/
def readLine (readOne : Reader Command) : (fuel : Nat) → Reader (List Command)
  | 0 => unexpected
  | fuel + 1 => do
    let command ← readOne
    if ← takeSeparator then
      if (← atLineEnd) || (← peek).isNone then return [command]
      else return command :: (← readLine readOne fuel)
    else if (← atLineEnd) || (← peek).isNone then return [command]
    else unexpected

/-- Reads a script line by line, up to the first failure. -/
def readLines (bound : Nat) : (fuel : Nat) → List Command → Unread → List Command × Option Failure
  | 0, commands, _ => (commands, none)
  | fuel + 1, commands, unread =>
    match unread.tokens.dropWhile (·.kind == .lineEnd) with
    | [] => (commands, none)
    | tokens =>
      match (readLine (readAndOr bound bound) bound).run { unread with tokens } with
      | .error failure => (commands, some failure)
      | .ok (line, unread) => readLines bound fuel (commands ++ [.sequence line]) unread

/-- The commands of a script whose first line has a number. -/
def parse (firstLine : Nat) (source : Octets) : Script :=
  let lexed := lex firstLine source
  let bound := lexed.tokens.length + 1
  let lastLine := firstLine + source.count '\n'
  let (commands, failure?) := readLines bound bound [] ⟨lexed.tokens, lexed.documents, lastLine⟩
  ⟨commands, match lexed.failure? with
    | some failure => some failure
    | none => failure?⟩

end QueryPipe.Shell
