import QueryPipe.Shell.Script

/-!
Cutting a script into words, operators and line ends.
-/

namespace QueryPipe.Shell

open Text (Octets)

namespace Token

/-- What a token is. -/
inductive Kind where
  | word (word : Word)
  /-- The number of a channel, right before a redirection. -/
  | channel (number : Nat)
  | operator (text : String)
  | lineEnd
deriving DecidableEq, Repr

end Token

/-- A token and the line on which it begins. -/
structure Token where
  kind : Token.Kind
  line : Nat
deriving DecidableEq, Repr

namespace Token

/-- The text of a word without quotes and expansions. -/
def plainText? : Kind → Option String
  | .word [.text content false] => some (String.ofList content)
  | _ => none

/-- How a token is called in a complaint. -/
def describe : Kind → String
  | .word [.text content _] => "\"" ++ String.ofList content ++ "\""
  | .word _ => "word"
  | .channel number => "\"" ++ toString number ++ "\""
  | .operator text => "\"" ++ text ++ "\""
  | .lineEnd => "newline"

end Token

/-! ## Words -/

def isBlankOctet (char : Char) : Bool := char == ' ' || char == '\t'

/-- Characters that end a word unless they are quoted. -/
def isMeta (char : Char) : Bool :=
  [' ', '\t', '\n', ';', '&', '|', '<', '>', '(', ')'].contains char

def isNameStart (char : Char) : Bool := char.isAlpha || char == '_'

def isNameChar (char : Char) : Bool := char.isAlphanum || char == '_'

/-- Parameters named by one mark. -/
def isSpecialParameter (char : Char) : Bool :=
  ['$', '?', '#', '@', '*', '!', '-'].contains char || char.isDigit

/-- The characters up to one, and what follows it. -/
def upTo (stop : Char) (text : Octets) : Option (Octets × Octets) :=
  match text.dropWhile (· != stop) with
  | _ :: rest => some (text.takeWhile (· != stop), rest)
  | [] => none

/-- The quote that is open while a parenthesis is looked for. -/
inductive OpenQuote where
  | none
  | single
  | double
deriving DecidableEq, Repr

/-- The characters up to the parenthesis that closes the current one. -/
def upToClosing (depth : Nat) (quote : OpenQuote) (taken : Octets) :
    Octets → Option (Octets × Octets)
  | [] => Option.none
  | char :: rest =>
    match quote, char with
    | .single, '\'' => upToClosing depth .none (char :: taken) rest
    | .single, _ => upToClosing depth .single (char :: taken) rest
    | quote, '\\' =>
      match rest with
      | escaped :: rest => upToClosing depth quote (escaped :: char :: taken) rest
      | [] => Option.none
    | .double, '"' => upToClosing depth .none (char :: taken) rest
    | .double, _ => upToClosing depth .double (char :: taken) rest
    | .none, '\'' => upToClosing depth .single (char :: taken) rest
    | .none, '"' => upToClosing depth .double (char :: taken) rest
    | .none, '(' => upToClosing (depth + 1) .none (char :: taken) rest
    | .none, ')' =>
      match depth with
      | 0 => some (taken.reverse, rest)
      | depth + 1 => upToClosing depth .none (char :: taken) rest
    | .none, _ => upToClosing depth .none (char :: taken) rest

def unterminatedQuote : String := "Syntax error: Unterminated quoted string"

def endUnexpected : String := "Syntax error: end of file unexpected"

/-- Reads what a dollar sign begins; `lineAt` tells the line of a rest. -/
def readExpansion (lineAt : Octets → Nat) (isQuoted : Bool) (text : Octets) :
    Except String (Part × Octets) :=
  match text with
  | '(' :: rest =>
    match upToClosing 0 .none [] rest with
    | some (source, rest') => .ok (.substitution source (lineAt rest) isQuoted, rest')
    | Option.none => .error "Syntax error: end of file unexpected (expecting \")\")"
  | '\x7b' :: rest =>
    match upTo '\x7d' rest with
    | some (name, rest) => .ok (.parameter name isQuoted, rest)
    | Option.none => .error "Syntax error: Missing '\x7d'"
  | char :: rest =>
    if isNameStart char then
      .ok (.parameter (text.takeWhile isNameChar) isQuoted, text.dropWhile isNameChar)
    else if isSpecialParameter char then .ok (.parameter [char] isQuoted, rest)
    else .ok (.text ['$'] isQuoted, text)
  | [] => .ok (.text ['$'] isQuoted, [])

/-- Reads the inside of double quotes, in reverse. -/
def readDouble (lineAt : Octets → Nat) :
    (fuel : Nat) → Word → Octets → Except String (Word × Octets)
  | 0, _, _ => .error unterminatedQuote
  | _ + 1, _, [] => .error unterminatedQuote
  | fuel + 1, parts, char :: rest =>
    match char with
    | '"' => .ok (parts, rest)
    | '\\' =>
      match rest with
      | '\n' :: rest => readDouble lineAt fuel parts rest
      | escaped :: rest =>
        if ['$', '`', '"', '\\'].contains escaped then
          readDouble lineAt fuel (.text [escaped] true :: parts) rest
        else readDouble lineAt fuel (.text [char, escaped] true :: parts) rest
      | [] => .error unterminatedQuote
    | '$' =>
      match readExpansion lineAt true rest with
      | .error message => .error message
      | .ok (part, rest) => readDouble lineAt fuel (part :: parts) rest
    | '`' =>
      match upTo '`' rest with
      | some (source, after) =>
        readDouble lineAt fuel (.substitution source (lineAt rest) true :: parts) after
      | Option.none => .error "Syntax error: EOF in backquote substitution"
    | char => readDouble lineAt fuel (.text [char] true :: parts) rest

/-- Reads a word, in reverse. -/
def readParts (lineAt : Octets → Nat) : (fuel : Nat) → Word → Octets → Except String (Word × Octets)
  | 0, parts, text => .ok (parts, text)
  | _ + 1, parts, [] => .ok (parts, [])
  | fuel + 1, parts, char :: rest =>
    if isMeta char then .ok (parts, char :: rest)
    else
      match char with
      | '\'' =>
        match upTo '\'' rest with
        | some (content, rest) => readParts lineAt fuel (.text content true :: parts) rest
        | Option.none => .error unterminatedQuote
      | '"' =>
        match readDouble lineAt rest.length [] rest with
        | .error message => .error message
        | .ok (inner, rest) =>
          readParts lineAt fuel (inner ++ .text [] true :: parts) rest
      | '\\' =>
        match rest with
        | '\n' :: rest => readParts lineAt fuel parts rest
        | escaped :: rest => readParts lineAt fuel (.text [escaped] true :: parts) rest
        | [] => .ok (.text [char] true :: parts, [])
      | '$' =>
        match readExpansion lineAt false rest with
        | .error message => .error message
        | .ok (part, rest) => readParts lineAt fuel (part :: parts) rest
      | '`' =>
        match upTo '`' rest with
        | some (source, after) =>
          readParts lineAt fuel (.substitution source (lineAt rest) false :: parts) after
        | Option.none => .error "Syntax error: EOF in backquote substitution"
      | char => readParts lineAt fuel (.text [char] false :: parts) rest

/-- Joins neighbouring texts that are quoted alike. -/
def joinTexts : Word → Word
  | [] => []
  | part :: rest =>
    match part, joinTexts rest with
    | .text first isQuoted, .text second isQuoted' :: rest' =>
      if isQuoted == isQuoted' then .text (first ++ second) isQuoted :: rest'
      else part :: .text second isQuoted' :: rest'
    | part, rest' => part :: rest'

/-- Reads the word at the front of a text. -/
def readWord (lineAt : Octets → Nat) (text : Octets) : Except String (Word × Octets) :=
  (readParts lineAt text.length [] text).map fun (parts, rest) => (joinTexts parts.reverse, rest)

/-! ## Documents inside a script -/

/-- A document that begins after the current line. -/
structure PendingDocument where
  delimiter : Octets
  /-- Whether nothing in the document is expanded. -/
  isLiteral : Bool
  /-- Whether tabs at the front of lines are dropped. -/
  dropsTabs : Bool
deriving DecidableEq, Repr

/-- The lines up to the delimiter, and what follows it.  The end of the script
ends a document too. -/
def documentLines (document : PendingDocument) :
    (fuel : Nat) → Octets → Octets → Octets × Octets
  | 0, body, text => (body, text)
  | _ + 1, body, [] => (body, [])
  | fuel + 1, body, text =>
    let line := text.takeWhile (· != '\n')
    let rest := (text.dropWhile (· != '\n')).drop 1
    let line := if document.dropsTabs then line.dropWhile (· == '\t') else line
    if line == document.delimiter then (body, rest)
    else documentLines document fuel (body ++ line ++ ['\n']) rest

/-- Reads the inside of a document that is expanded, in reverse: quotes stand for
themselves. -/
def readDocument (lineAt : Octets → Nat) : (fuel : Nat) → Word → Octets → Except String Word
  | 0, parts, _ => .ok parts
  | _ + 1, parts, [] => .ok parts
  | fuel + 1, parts, char :: rest =>
    match char with
    | '\\' =>
      match rest with
      | '\n' :: rest => readDocument lineAt fuel parts rest
      | escaped :: rest =>
        if ['$', '`', '\\'].contains escaped then
          readDocument lineAt fuel (.text [escaped] true :: parts) rest
        else readDocument lineAt fuel (.text [char, escaped] true :: parts) rest
      | [] => .ok (.text [char] true :: parts)
    | '$' =>
      match readExpansion lineAt true rest with
      | .error message => .error message
      | .ok (part, rest) => readDocument lineAt fuel (part :: parts) rest
    | '`' =>
      match upTo '`' rest with
      | some (source, after) =>
        readDocument lineAt fuel (.substitution source (lineAt rest) true :: parts) after
      | Option.none => .error "Syntax error: EOF in backquote substitution"
    | char => readDocument lineAt fuel (.text [char] true :: parts) rest

/-- The body of a document as a word. -/
def documentWord (lineAt : Octets → Nat) (document : PendingDocument) (body : Octets) :
    Except String Word :=
  if document.isLiteral then .ok [.text body true]
  else (readDocument lineAt body.length [] body).map fun parts => joinTexts parts.reverse

/-! ## Tokens -/

/-- The tokens of a script and the documents in it, in order. -/
structure Lexed where
  tokens : List Token
  documents : List Word
  failure? : Option Failure

/-- Operators, longer ones first. -/
def operators : List String :=
  ["<<-", "&&", "||", ";;", "<<", ">>", "<&", ">&", "<>", ">|", "&", "|", ";", "<", ">", "(", ")"]

/-- The operator at the front of a text. -/
def operator? (text : Octets) : Option (String × Octets) :=
  operators.findSome? fun operator =>
    if operator.toList.isPrefixOf text then some (operator, text.drop operator.length) else none

/-- What has been read of a script. -/
structure Lexer where
  /-- Tokens read so far, in reverse. -/
  tokens : List Token := []
  /-- Documents read so far, in reverse. -/
  documents : List Word := []
  /-- Documents that begin after this line. -/
  pending : List PendingDocument := []

namespace Lexer

def push (lexer : Lexer) (kind : Token.Kind) (line : Nat) : Lexer :=
  { lexer with tokens := ⟨kind, line⟩ :: lexer.tokens }

/-- The result after the last token. -/
def finish (lexer : Lexer) : Lexed :=
  ⟨lexer.tokens.reverse, lexer.documents.reverse ++ lexer.pending.map fun _ => [], none⟩

/-- The result at a text that cannot be read: the line that it begins on is
dropped. -/
def fail (lexer : Lexer) (line : Nat) (message : String) : Lexed :=
  ⟨(lexer.tokens.dropWhile (·.kind != .lineEnd)).reverse, lexer.documents.reverse,
    some ⟨line, message⟩⟩

/-- The unquoted text of a delimiter, and whether any of it was quoted. -/
def delimiterOf (word : Word) : Octets × Bool :=
  (word.flatMap fun
    | .text content _ => content
    | .parameter name _ => '$' :: name
    | .substitution source _ _ => source,
   word.any fun
    | .text _ isQuoted => isQuoted
    | _ => false)

/-- Whether the token read last announces a document. -/
def announces (lexer : Lexer) : Option Bool :=
  match lexer.tokens with
  | ⟨.operator "<<", _⟩ :: _ => some false
  | ⟨.operator "<<-", _⟩ :: _ => some true
  | _ => none

/-- Adds a word; after the announcement of a document it is the delimiter. -/
def pushWord (lexer : Lexer) (word : Word) (line : Nat) : Lexer :=
  match lexer.announces with
  | none => lexer.push (.word word) line
  | some dropsTabs =>
    let (delimiter, isLiteral) := delimiterOf word
    { lexer.push (.word word) line with
      pending := lexer.pending ++ [⟨delimiter, isLiteral, dropsTabs⟩] }

/-- Reads the documents that begin after a line end. -/
def readPending (lineAt : Octets → Nat) (lexer : Lexer) (text : Octets) :
    Except String (Lexer × Octets) :=
  (lexer.pending.foldlM readOne (lexer, text)).map fun (lexer, rest) =>
    ({ lexer with pending := [] }, rest)
where
  readOne : Lexer × Octets → PendingDocument → Except String (Lexer × Octets)
  | (lexer, text), document =>
    let (body, rest) := documentLines document (text.length + 1) [] text
    (documentWord lineAt document body).map fun word =>
      ({ lexer with documents := word :: lexer.documents }, rest)

/-- Whether digits before a redirection are the number of its channel. -/
def channel? (text : Octets) : Option (Nat × Octets) :=
  let digits := text.takeWhile Char.isDigit
  match text.dropWhile Char.isDigit with
  | '<' :: rest => if digits.isEmpty then none else some (number digits, '<' :: rest)
  | '>' :: rest => if digits.isEmpty then none else some (number digits, '>' :: rest)
  | _ => none
where
  number (digits : List Char) : Nat :=
    digits.foldl (fun value digit => 10 * value + (digit.toNat - '0'.toNat)) 0

/-- Reads a script; each step of `fuel` reads at least one character. -/
def run (lineAt : Octets → Nat) : (fuel : Nat) → Lexer → Octets → Lexed
  | 0, lexer, _ => lexer.finish
  | _ + 1, lexer, [] => lexer.finish
  | fuel + 1, lexer, char :: rest =>
    let text := char :: rest
    let line := lineAt text
    if isBlankOctet char then run lineAt fuel lexer rest
    else if char == '#' then run lineAt fuel lexer (rest.dropWhile (· != '\n'))
    else if char == '\n' then
      match readPending lineAt (lexer.push .lineEnd line) rest with
      | .error message => lexer.fail line message
      | .ok (lexer, rest) => run lineAt fuel lexer rest
    else if ['\\', '\n'].isPrefixOf text then run lineAt fuel lexer (rest.drop 1)
    else
      match channel? text with
      | some (number, rest) => run lineAt fuel (lexer.push (.channel number) line) rest
      | none =>
        match operator? text with
        | some (operator, rest) => run lineAt fuel (lexer.push (.operator operator) line) rest
        | none =>
          match readWord lineAt text with
          | .error message => lexer.fail (lineAt []) message
          | .ok (word, rest) => run lineAt fuel (lexer.pushWord word line) rest

end Lexer

/-- The tokens of a script whose first line has a number. -/
def lex (firstLine : Nat) (source : Octets) : Lexed :=
  let newlines := source.count '\n'
  let lineAt (rest : Octets) : Nat := firstLine + newlines - rest.count '\n'
  Lexer.run lineAt source.length {} source

end QueryPipe.Shell
