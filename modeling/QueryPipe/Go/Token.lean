/-!
Words and marks of a Go source.  A token keeps its characters and the byte
range it covers, so that a syntax tree made of tokens can always be read back
as places in the text.
-/

namespace QueryPipe.Go

/-- Words with a meaning of their own.  The last six may also be used as plain
names wherever they cannot stand for themselves. -/
inductive Keyword where
  | breakWord | defaultWord | funcWord | interfaceWord | selectWord
  | caseWord | deferWord | goWord | mapWord | structWord
  | chanWord | elseWord | gotoWord | packageWord | switchWord
  | constWord | fallthroughWord | ifWord | rangeWord | typeWord
  | continueWord | forWord | importWord | returnWord | varWord
  | nilWord | trueWord | falseWord | iotaWord | newWord | makeWord
deriving DecidableEq, Repr

namespace Keyword

/-- The keyword that a word spells, if it spells one. -/
def ofWord? : List Char → Option Keyword
  | ['b', 'r', 'e', 'a', 'k'] => some breakWord
  | ['d', 'e', 'f', 'a', 'u', 'l', 't'] => some defaultWord
  | ['f', 'u', 'n', 'c'] => some funcWord
  | ['i', 'n', 't', 'e', 'r', 'f', 'a', 'c', 'e'] => some interfaceWord
  | ['s', 'e', 'l', 'e', 'c', 't'] => some selectWord
  | ['c', 'a', 's', 'e'] => some caseWord
  | ['d', 'e', 'f', 'e', 'r'] => some deferWord
  | ['g', 'o'] => some goWord
  | ['m', 'a', 'p'] => some mapWord
  | ['s', 't', 'r', 'u', 'c', 't'] => some structWord
  | ['c', 'h', 'a', 'n'] => some chanWord
  | ['e', 'l', 's', 'e'] => some elseWord
  | ['g', 'o', 't', 'o'] => some gotoWord
  | ['p', 'a', 'c', 'k', 'a', 'g', 'e'] => some packageWord
  | ['s', 'w', 'i', 't', 'c', 'h'] => some switchWord
  | ['c', 'o', 'n', 's', 't'] => some constWord
  | ['f', 'a', 'l', 'l', 't', 'h', 'r', 'o', 'u', 'g', 'h'] => some fallthroughWord
  | ['i', 'f'] => some ifWord
  | ['r', 'a', 'n', 'g', 'e'] => some rangeWord
  | ['t', 'y', 'p', 'e'] => some typeWord
  | ['c', 'o', 'n', 't', 'i', 'n', 'u', 'e'] => some continueWord
  | ['f', 'o', 'r'] => some forWord
  | ['i', 'm', 'p', 'o', 'r', 't'] => some importWord
  | ['r', 'e', 't', 'u', 'r', 'n'] => some returnWord
  | ['v', 'a', 'r'] => some varWord
  | ['n', 'i', 'l'] => some nilWord
  | ['t', 'r', 'u', 'e'] => some trueWord
  | ['f', 'a', 'l', 's', 'e'] => some falseWord
  | ['i', 'o', 't', 'a'] => some iotaWord
  | ['n', 'e', 'w'] => some newWord
  | ['m', 'a', 'k', 'e'] => some makeWord
  | _ => none

/-- Whether the word may also serve as an ordinary name. -/
def isSoft : Keyword → Bool
  | nilWord | trueWord | falseWord | iotaWord | newWord | makeWord => true
  | _ => false

end Keyword

/-- What a token is.  Punctuation comes one character at a time; operators of
several characters are marks without a gap between them. -/
inductive TokenKind where
  | name
  | keyword (word : Keyword)
  | number
  | rune
  | stringLiteral
  | mark (char : Char)
  | comment
  | lineEnd
  | nul
deriving DecidableEq, Repr

/-- A token with its characters and its byte range. -/
structure Token where
  kind : TokenKind
  start : Nat
  stop : Nat
  text : List Char
deriving DecidableEq, Repr

namespace Token

def isComment (token : Token) : Bool := token.kind == .comment

/-- Whether the token is a comment or a line end. -/
def isTrivia (token : Token) : Bool := token.kind == .comment || token.kind == .lineEnd

end Token

end QueryPipe.Go
