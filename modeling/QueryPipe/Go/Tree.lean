import QueryPipe.Go.Token

/-!
Syntax trees.  The leaves are tokens, comments among them; the inner nodes that
matter to a reader of the tree have a kind of their own.
-/

namespace QueryPipe.Go

/-- What an inner node stands for. -/
inductive NodeKind where
  /-- A whole source. -/
  | sourceFile
  /-- A type followed by a body, such as `pkg.Name{Field: value}`. -/
  | compositeLiteral
  /-- The braces of a composite literal and what stands between them. -/
  | literalBody
  /-- A key, a colon and a value. -/
  | keyedElement
  /-- A package, a dot and a type name. -/
  | qualifiedType
  /-- A function and its arguments. -/
  | call
  /-- The parentheses of a call and what stands between them. -/
  | arguments
  /-- An operand, a dot and a field name. -/
  | selector
  /-- A package clause, an import or a function with a name. -/
  | declaration
  /-- The expressions that a statement gives to something: the values of a constant or a
  variable, what is assigned, sent or returned, and the call of a `go` or a `defer`. -/
  | value
  /-- Anything else. -/
  | group
deriving DecidableEq, Repr

/-- A syntax tree. -/
inductive Tree where
  | leaf (token : Token)
  | node (kind : NodeKind) (children : List Tree)
deriving Repr

namespace Tree

/-- Whether the tree is a comment. -/
def isComment : Tree → Bool
  | leaf token => token.kind == .comment
  | node _ _ => false

/-- Whether the tree is a comment or a line end. -/
def isTrivia : Tree → Bool
  | leaf token => token.isTrivia
  | node _ _ => false

/-- Whether the tree is a node of the kind. -/
def hasKind (kind : NodeKind) : Tree → Bool
  | leaf _ => false
  | node actual _ => actual == kind

/-- The children that are no comments. -/
def parts : Tree → List Tree
  | leaf _ => []
  | node _ children => children.filter (!·.isComment)

end Tree

mutual

/-- The tokens of a tree, from left to right. -/
def Tree.tokens : Tree → List Token
  | .leaf token => [token]
  | .node _ children => forestTokens children

/-- The tokens of several trees, from left to right. -/
def forestTokens : List Tree → List Token
  | [] => []
  | tree :: rest => tree.tokens ++ forestTokens rest

end

mutual

/-- Whether what comes last in a tree is a value. -/
def Tree.endsInValue : Tree → Bool
  | .leaf _ => false
  | .node kind children => kind == .value || forestEndsInValue children

/-- Whether what comes last in several trees, but for comments and line ends, is a value. -/
def forestEndsInValue : List Tree → Bool
  | [] => false
  | tree :: rest =>
    if rest.all (·.isTrivia) then tree.endsInValue else forestEndsInValue rest

end

end QueryPipe.Go
