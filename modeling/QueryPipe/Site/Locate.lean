import QueryPipe.Go.Parser
import QueryPipe.Site.Shape

/-!
Finding the query literals of a syntax tree.
-/

namespace QueryPipe

namespace Go.Tree

/-- The characters of a tree that is a single token. -/
def text? : Tree → Option (List Char)
  | leaf token => some token.text
  | node _ _ => none

/-- The characters of a tree that is a name used as an operand. -/
def operandName? : Tree → Option (List Char)
  | leaf token =>
    match token.kind with
    | .name | .keyword .newWord | .keyword .makeWord => some token.text
    | _ => none
  | node _ _ => none

/-- The token of a tree that is a string literal. -/
def stringLiteral? : Tree → Option Token
  | leaf token => if token.kind == .stringLiteral then some token else none
  | node _ _ => none

end Go.Tree

namespace Site

open Go (Tree Token)

/-- Whether a type is `package.name` with the name that the shape asks for. -/
def Shape.isTargetType (shape : Shape) (type : Tree) : Bool :=
  type.hasKind .qualifiedType
    && match type.parts with
      | [_, _, name] => name.text? == some shape.typeName.toList
      | _ => false

/-- Whether an operand is `formatPackage.formatFunction`. -/
def Shape.isFormatFunction (shape : Shape) (function : Tree) : Bool :=
  function.hasKind .selector
    && match function.parts with
      | [operand, _, field] =>
        operand.operandName? == some shape.formatPackage.toList
          && field.text? == some shape.formatFunction.toList
      | _ => false

/-- The first argument of a call. -/
def firstArgument? (call : Tree) : Option Tree :=
  match call.parts.getLast? with
  | some arguments => if arguments.hasKind .arguments then arguments.parts[1]? else none
  | none => none

/-- The query literal that a field value holds, if it holds one. -/
def Shape.literalOfValue? (shape : Shape) (value : Tree) : Option (Token × Kind) :=
  match value.stringLiteral? with
  | some token => some (token, .plain)
  | none =>
    if value.hasKind .call && value.parts.head?.any shape.isFormatFunction then
      (firstArgument? value).bind fun argument =>
        argument.stringLiteral?.map fun token => (token, .template)
    else none

/-- The query literal of an element of a literal body, if the element has the
field as its key. -/
def Shape.literalOfElement? (shape : Shape) (element : Tree) : Option (Token × Kind) :=
  if element.hasKind .keyedElement then
    match element.parts with
    | [key, _, value] =>
      if key.operandName? == some shape.fieldName.toList then shape.literalOfValue? value
      else none
    | _ => none
  else none

/-- The query literals that stand directly in a composite literal. -/
def Shape.literalsOf (shape : Shape) (tree : Tree) : List (Token × Kind) :=
  if tree.hasKind .compositeLiteral then
    match tree.parts with
    | [type, body] =>
      if shape.isTargetType type then body.parts.filterMap shape.literalOfElement? else []
    | _ => []
  else []

mutual

/-- The query literals of a tree: those of a node before those below it. -/
def Shape.literals (shape : Shape) : Tree → List (Token × Kind)
  | .leaf _ => []
  | .node kind children =>
    shape.literalsOf (.node kind children) ++ shape.forestLiterals children

/-- The query literals of several trees. -/
def Shape.forestLiterals (shape : Shape) : List Tree → List (Token × Kind)
  | [] => []
  | tree :: rest => shape.literals tree ++ shape.forestLiterals rest

end

end Site

/-- A query literal and where it stands. -/
structure Site where
  start : Nat
  stop : Nat
  position : Text.Position
  raw : String
  kind : Site.Kind
deriving DecidableEq, Repr

namespace Site

/-- The site of a literal in its source. -/
def ofLiteral (source : List Char) (literal : Go.Token × Kind) : Site where
  start := literal.1.start
  stop := literal.1.stop
  position := .ofOffset source literal.1.start
  raw := String.ofList literal.1.text
  kind := literal.2

/-- Drops a site that begins where the one before it begins. -/
def dropRepeated : List Site → List Site
  | first :: second :: rest =>
    if first.start == second.start then dropRepeated (first :: rest)
    else first :: dropRepeated (second :: rest)
  | sites => sites
termination_by sites => sites.length

/-- The query literals of a tree in source order. -/
def locate (shape : Shape) (source : List Char) (tree : Go.Tree) : List Site :=
  let sites := (shape.literals tree).map (ofLiteral source)
  dropRepeated (sites.mergeSort fun left right => left.start ≤ right.start)

end Site

end QueryPipe
