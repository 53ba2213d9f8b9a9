import QueryPipe.Go.Grammar
import QueryPipe.Go.Lexer
import QueryPipe.Text.Position
import QueryPipe.Text.Quoted

/-!
From the characters of a source to its syntax tree.
-/

namespace QueryPipe.Go

/-- How deeply rules may be nested over a number of tokens.  Between two tokens
fewer rules are entered than the factor says. -/
def nestingBound (count : Nat) : Nat := 128 * (count + 2)

/-- Whether only comments and line ends are left. -/
def isFinished (tokens : List Token) : Bool :=
  tokens.all fun token => token.kind == .comment || token.kind == .lineEnd

/-- The tree that the grammar derives from a token list, if there is one. -/
def deriveTree? (tokens : List Token) : Option Tree :=
  let found := Rule.matches Grammar.rule (nestingBound tokens.length)
    (.ref Symbol.sourceFile) tokens
  match found.find? fun (_, rest) => isFinished rest with
  | some ([tree], _) => some tree
  | _ => none

/-- Whether the last token that is no comment ends a line. -/
def endsLine (tokens : List Token) : Bool :=
  (tokens.filter (!·.isComment)).getLast?.any (·.kind == .lineEnd)

/-- Whether the last declaration or statement of a source needs no line end: a semicolon
or a NUL ends it, it is a declaration, or it ends in a value.  After any other statement the
scanner looks for the end of the source itself, which ends no statement; elsewhere it reads
the NUL behind the source, which does. -/
def Tree.mayEnd : Tree → Bool
  | .leaf _ => true
  | .node _ children =>
    match (children.filter (!·.isTrivia)).getLast? with
    | some (.leaf token) => token.kind == .mark ';' || token.kind == .nul
    | some last => last.hasKind .declaration || last.endsInValue
    | none => true

/-- The tree of a token list: the grammar derives it, and its last statement is ended. -/
def parseTokens? (tokens : List Token) : Option Tree :=
  (deriveTree? tokens).filter fun tree => endsLine tokens || tree.mayEnd

/-- The tree of a source, if it is one. -/
def parse? (source : List Char) : Option Tree :=
  match lex source with
  | .ok tokens => parseTokens? tokens
  | .error _ => none

/-- Where a source that could not be cut into tokens goes wrong: the first
characters that begin no token. -/
structure StrayText where
  position : Text.Position
  snippet : String
deriving DecidableEq, Repr

/-- Whether no token begins with the character. -/
def isStray (char : Char) : Bool :=
  !(isSpace char || isMark char || isNameStart char || char.isDigit
    || ['"', '`', '\'', '\x00'].contains char)

/-- How much of the text at fault a message shows. -/
def snippetLength : Nat := 40

/-- The first characters of a source that begin no token, if there are any. -/
def strayText? (source : List Char) : Option StrayText :=
  match lex source with
  | .ok _ => none
  | .error offset =>
    let run := (Text.Utf8.splitAt offset source).2.takeWhile isStray
    some ⟨.ofOffset source offset, String.ofList (run.take snippetLength)⟩

/-- A source, and where it goes wrong as far as that is known. -/
structure Blame where
  path : String
  /-- The text that could not be cut into tokens. -/
  stray : Option StrayText := none
deriving DecidableEq, Repr

/-- A path alone: nothing is known of where its source goes wrong. -/
instance : Coe String Blame := ⟨fun path => { path }⟩

/-- Why a source has no syntax tree. -/
structure SourceError where
  blame : Blame
deriving DecidableEq, Repr

namespace SourceError

/-- The error of a source that has no syntax tree. -/
def ofSource (path : String) (source : List Char) : SourceError :=
  ⟨{ path, stray := strayText? source }⟩

/-- The message of a source that has no syntax tree, without the place. -/
def message (error : SourceError) : String :=
  "Parse error: " ++ error.blame.path ++ ": syntax error"

end SourceError

namespace StrayText

/-- The message that also shows the place. -/
def message (path : String) (stray : StrayText) : String :=
  "Parse error: " ++ path ++ ":" ++ stray.position.render ++ ": syntax error near "
    ++ Text.quoted stray.snippet

end StrayText

end QueryPipe.Go
