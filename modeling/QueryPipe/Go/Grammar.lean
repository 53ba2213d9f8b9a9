import QueryPipe.Go.Rule

/-!
The grammar of Go sources.

It is a grammar of shapes only: declarations and statements may stand in any
order at the top of a source, and nothing is resolved or checked beyond the
order of tokens.  A line end is white space wherever a statement cannot end;
where one can, it ends the statement.

What may come after an expression decides how its last tokens are read, so
the rules for expressions carry a `Follow`.
-/

namespace QueryPipe.Go

/-- What may come right after an expression. -/
structure Follow where
  /-- A terminator, so that a line end is one. -/
  terminator : Bool
  /-- The brace of a block, so that a bare name before a brace is no type. -/
  block : Bool
  /-- A mark `++` or `--`, so that they are not two signs. -/
  step : Bool
  /-- A mark `<-`, so that it is not a comparison with a negative number. -/
  send : Bool
deriving DecidableEq, Repr

namespace Follow

/-- Inside brackets, and before commas, colons and semicolons. -/
def inside : Follow := ⟨false, false, false, false⟩

/-- At the end of a statement. -/
def value : Follow := ⟨true, false, false, false⟩

/-- At the start of a statement. -/
def statement : Follow := ⟨true, false, true, true⟩

/-- At the start of the head of a compound statement. -/
def head : Follow := ⟨false, true, true, true⟩

/-- Right before the block of a compound statement. -/
def beforeBlock : Follow := ⟨false, true, false, false⟩

/-- At the start of a communication in a `select`. -/
def communication : Follow := ⟨false, false, false, true⟩

end Follow

/-- The nonterminals.  A type carries whether a terminator may follow it. -/
inductive Symbol where
  | sourceFile | topLevel | importSpec | constSpec | varSpec | typeSpec
  | statement | statementList | block | ifStatement | caseBody
  | simple (first rest : Follow)
  | expression (follow : Follow)
  | unary (follow : Follow)
  | primary (follow : Follow)
  | expressionList (follow : Follow)
  | literalBody | element | arguments
  | typeName (ends : Bool) | simpleType (ends : Bool) | anyType (ends : Bool)
  | typeElement (ends : Bool) | typeArguments | typeParameters | parameters
  | result (ends : Bool)
deriving DecidableEq, Repr

namespace Grammar

abbrev R := Rule Symbol

/-! ## Building blocks -/

def word (keyword : Keyword) : R := .token (.keyword keyword)

def mark (char : Char) : R := .spelled [char]

def plainName : R := .token .plainName

def name : R := .token .name

def nothing : R := .seq []

def group (rules : List R) : R := .node .group (.seq rules)

/-- Expressions that a statement gives to something. -/
def value (expressions : R) : R := .node .value expressions

/-- The rule, not across a line end if a line end would end the statement. -/
def continuing (ends : Bool) (rule : R) : R :=
  if ends then .onLine rule else rule

/-- One or more, with a separator between them. -/
def separated (separator item : R) : R :=
  .seq [item, .many (.seq [separator, item])]

def expression (follow : Follow) : R := .ref (.expression follow)

def anyType (ends : Bool) : R := .ref (.anyType ends)

def commaList (item : R) : R := separated (mark ',') item

/-- Zero or more in parentheses, each ended by a terminator. -/
def terminatedGroup (item : R) : R :=
  .seq [mark '(', .many (.seq [item, .terminator]), mark ')']

/-- Zero or more between two marks, with terminators between them. -/
def terminatorSeparated (opening closing : Char) (item : R) : R :=
  .seq [mark opening, .optional (.seq [separated .terminator item, .optional .terminator]),
    mark closing]

/-! ## Types -/

/-- A name, a qualified name, or either with type arguments. -/
def typeName (ends : Bool) : R :=
  group [name, .optional (continuing ends (.seq [mark '.', name])),
    .optional (continuing ends (.ref .typeArguments))]

/-- A field: names and a type, or an embedded type; then perhaps a tag.  Both
readings are kept, since `Name[index]` may go on as an array of the type on the
next line. -/
def field : R :=
  let embedded : R := .seq [.optional (mark '*'), .ref (.typeName true)]
  let single : R := .seq [name, .onLine (anyType true)]
  let several : R := .seq [name, mark ',', commaList name, anyType true]
  group [.union [.first [several, single], embedded],
    .optional (.onLine (.token .stringLiteral))]

def structType : R :=
  group [word .structWord, terminatorSeparated '\x7b' '\x7d' field]

/-- A method or a union of types. -/
def interfaceElement : R :=
  .first [
    group [name, .onLine (.ref .parameters), .optional (.onLine (.ref (.result true)))],
    .ref (.typeElement true)]

def interfaceType : R :=
  group [word .interfaceWord, terminatorSeparated '\x7b' '\x7d' interfaceElement]

def mapType (ends : Bool) : R :=
  group [word .mapWord, mark '[', anyType false, mark ']', anyType ends]

/-- A slice, or an array with a length. -/
def arrayType (ends : Bool) : R :=
  group [mark '[', .optional (expression .inside), mark ']', anyType ends]

def channelType (ends : Bool) : R :=
  .first [
    group [word .chanWord, .optional (.spelled ['<', '-']), anyType ends],
    group [.spelled ['<', '-'], word .chanWord, anyType ends]]

def functionType (ends : Bool) : R :=
  group [word .funcWord, .ref .parameters, .optional (continuing ends (.ref (.result ends)))]

def simpleType (ends : Bool) : R :=
  .first [
    .ref (.typeName ends),
    group [mark '*', anyType ends],
    structType,
    interfaceType,
    arrayType ends,
    mapType ends,
    channelType ends,
    functionType ends,
    group [mark '~', anyType ends]]

/-- A parameter: a variadic one, names with a type, or a type alone. -/
def parameter : R :=
  let ellipsis : R := .spelled ['.', '.', '.']
  .first [
    group [.optional name, ellipsis, anyType false],
    group [commaList name, anyType false],
    group [anyType false]]

def parameters : R :=
  group [mark '(', .optional (commaList parameter), .optional (mark ','), mark ')']

def typeParameters : R :=
  let declaration : R := .seq [commaList name, .ref (.typeElement false)]
  group [mark '[', commaList declaration, .optional (mark ','), mark ']']

def typeArguments : R :=
  group [mark '[', commaList (.ref (.typeElement false)), .optional (mark ','), mark ']']

/-! ## Expressions -/

/-- Binary operators, longer ones first. -/
def binaryOperator (follow : Follow) : R :=
  let reserved : List R :=
    (if follow.step then [.absent (.spelled ['+', '+']), .absent (.spelled ['-', '-'])] else [])
    ++ (if follow.send then [.absent (.spelled ['<', '-'])] else [])
  let operators : List R := [['&', '&'], ['|', '|'], ['=', '='], ['!', '='], ['<', '='],
    ['>', '='], ['<', '<'], ['>', '>'], ['&', '^'], ['+'], ['-'], ['|'], ['^'], ['*'], ['/'],
    ['%'], ['&'], ['<'], ['>']].map .spelled
  .seq (reserved ++ [.first operators])

def unaryOperator : R :=
  .first ([['<', '-'], ['+'], ['-'], ['!'], ['^'], ['*'], ['&']].map .spelled)

/-- The operand of a conversion. -/
def conversionTail : R :=
  group [mark '(', expression .inside, .optional (mark ','), mark ')']

/-- Types in brackets after a type. -/
def instantiationTail : R :=
  group [mark '[', commaList (anyType false), .optional (mark ','), mark ']']

/-- The body of a literal after its type. -/
def literalTail : R :=
  .node .compositeLiteral (.ref .literalBody)

/-- An index or a slice in brackets, or type arguments and a call. -/
def bracketTail : R :=
  let bound : R := .optional (expression .inside)
  let fullSlice : R := .seq [mark ':', expression .inside, mark ':', expression .inside, mark ']']
  let slice : R := .first [fullSlice, .seq [mark ':', bound, mark ']']]
  .first [
    group [mark '[', expression .inside, .first [mark ']', slice]],
    group [mark '[', slice],
    .node .call (.seq [.ref .typeArguments, .ref .arguments])]

/-- What may follow an operand and make a larger one of it. -/
def operandTail : R :=
  .first [
    .node .selector (.seq [mark '.', name]),
    group [mark '.', mark '(', anyType false, mark ')'],
    .node .call (.ref .arguments),
    bracketTail]

/-- Literals whose type is a name.  Where a block may follow, a bare name is no
type, and the other forms are kept beside the reading as an operand. -/
def namedLiteral (follow : Follow) : List R :=
  let ends := follow.terminator
  let qualified : R := .node .qualifiedType (.seq [plainName, continuing ends (mark '.'), name])
  let body := continuing ends (.ref .literalBody)
  let withArguments (type : R) := group [type, continuing ends (.ref .typeArguments)]
  let types := [qualified, withArguments qualified, withArguments plainName]
    ++ (if follow.block then [] else [plainName])
  types.map fun type => .node .compositeLiteral (.seq [type, body])

/-- A name or a qualified name, perhaps with an index or type arguments. -/
def namedOperand (follow : Follow) : R :=
  let ends := follow.terminator
  let selected : R := .node .selector (.seq [plainName, continuing ends (mark '.'), name])
  .extend false (.first [selected, plainName])
    (continuing ends (.first [bracketTail, instantiationTail]))

/-- Operands that begin with a name. -/
def named (follow : Follow) : R :=
  let literals : R := .first (namedLiteral follow)
  if follow.block then .union [namedOperand follow, literals]
  else .first [literals, namedOperand follow]

/-- The names `new` and `make`, whose first argument is a type. -/
def allocation (follow : Follow) : R :=
  let function : R := .first [word .newWord, word .makeWord]
  let rest : R := .many (.seq [mark ',', expression .inside])
  let arguments : R := .node .arguments (.seq [mark '(',
    .optional (.seq [anyType false, rest, .optional (mark ',')]), mark ')'])
  .first [
    .node .call (.seq [function, continuing follow.terminator arguments]),
    .seq [function, .absent (continuing follow.terminator (mark '('))]]

/-- Operands that begin with a type that is no name. -/
def typedOperand : R :=
  let implicitArray :=
    group [mark '[', .spelled ['.', '.', '.'], mark ']', anyType false]
  let literalTypes : R := .first [arrayType false, mapType false, structType]
  let otherTypes : R := .first [interfaceType, functionType false, group [word .chanWord,
    .optional (.spelled ['<', '-']), anyType false], group [mark '~', anyType false]]
  .first [
    .extend true implicitArray literalTail,
    .extend true literalTypes (.first [literalTail, conversionTail, instantiationTail]),
    .extend true otherTypes (.first [conversionTail, instantiationTail])]

def functionLiteral : R :=
  group [word .funcWord, .ref .parameters, .optional (.ref (.result false)), .ref .block]

def parenthesized : R :=
  .first [
    group [mark '(', expression .inside, mark ')'],
    .extend true (group [mark '(', anyType false, mark ')'])
      (.first [conversionTail, instantiationTail])]

def operand (follow : Follow) : R :=
  .first [
    .token .stringLiteral,
    .token .number,
    .token .rune,
    word .nilWord, word .trueWord, word .falseWord, word .iotaWord,
    named follow,
    allocation follow,
    parenthesized,
    functionLiteral,
    typedOperand]

def primary (follow : Follow) : R :=
  .chain (operand follow) (continuing follow.terminator operandTail)

def unary (follow : Follow) : R :=
  .first [group [unaryOperator, .ref (.unary follow)], .ref (.primary follow)]

def binary (follow : Follow) : R :=
  .chain (.ref (.unary follow))
    (continuing follow.terminator (group [binaryOperator follow, .ref (.unary follow)]))

def expressionList (follow : Follow) : R :=
  .seq [expression follow,
    .many (continuing follow.terminator (.seq [mark ',', expression follow]))]

/-- An argument, perhaps spread. -/
def argument : R :=
  .extend false (expression .inside) (.node .group (.spelled ['.', '.', '.']))

def arguments : R :=
  .node .arguments (.seq [mark '(',
    .optional (.seq [commaList argument, .optional (mark ',')]), mark ')'])

/-- An element of a literal body: an expression or a body without a type. -/
def element : R := .first [.ref .literalBody, expression .inside]

/-- An element, perhaps with a key. -/
def entry : R :=
  .extend false (.ref .element) (.node .keyedElement (.seq [mark ':', .ref .element]))

def literalBody : R :=
  .node .literalBody (.seq [mark '\x7b', .optional (commaList entry), .optional (mark ','),
    mark '\x7d'])

/-! ## Statements -/

def assignmentOperator : R :=
  .first ([[':', '='], ['='], ['+', '='], ['-', '='], ['*', '='], ['/', '='], ['%', '='],
    ['&', '='], ['|', '='], ['^', '='], ['<', '<', '='], ['>', '>', '='],
    ['&', '^', '=']].map .spelled)

/-- Further expressions of a list whose first one was read. -/
def moreExpressions : R :=
  .many (.seq [mark ',', expression .inside])

/-- What makes a statement of an expression, other than the expression alone. -/
def simpleTail (rest : Follow) : R :=
  .first [
    .spelled ['+', '+'],
    .spelled ['-', '-'],
    .seq [.spelled ['<', '-'], value (expression rest)],
    .seq [moreExpressions, assignmentOperator, value (.ref (.expressionList rest))]]

def simple (first rest : Follow) : R :=
  .seq [expression first, .optional (continuing first.terminator (simpleTail rest))]

/-- The name and the colon of a label. -/
def labelHead : R :=
  .seq [plainName, .onLine (.seq [.absent (.spelled [':', '=']), mark ':'])]

def ifStatement : R :=
  group [word .ifWord, expression .head,
    .first [.seq [.optional (simpleTail .inside), mark ';', expression .beforeBlock], nothing],
    .ref .block,
    .optional (.onLine (.seq [word .elseWord, .first [.ref .block, .ref .ifStatement]]))]

def forStatement : R :=
  let clause : R := .seq [mark ';', .optional (expression .inside), mark ';',
    .optional (.ref (.simple .head .beforeBlock))]
  let ranged : R := .seq [moreExpressions, .first [.spelled [':', '='], mark '='],
    word .rangeWord, expression .beforeBlock]
  group [word .forWord,
    .first [
      .seq [word .rangeWord, expression .beforeBlock],
      clause,
      .seq [expression .head,
        .first [ranged, .seq [.optional (simpleTail .inside), clause], nothing]],
      nothing],
    .ref .block]

/-- A clause: its head, a colon and statements. -/
def clause (head : List R) : R :=
  group (head ++ [mark ':', .ref .caseBody])

def defaultClause : R := clause [word .defaultWord]

/-- The clauses of a compound statement, in braces. -/
def clauses (case : R) : R :=
  .seq [mark '\x7b', .many (.first [case, defaultClause]), mark '\x7d']

def expressionClauses : R :=
  clauses (clause [word .caseWord, .ref (.expressionList .inside)])

def typeClauses : R :=
  clauses (clause [word .caseWord, commaList (anyType false)])

/-- The head of a `switch` after its initializer, and its clauses. -/
def switchTail (first : Follow) (initializer : List R) : R :=
  let guard : R := .seq [mark '.', mark '(', word .typeWord, mark ')', typeClauses]
  .first [
    .seq [expression first,
      .first (initializer ++ [
        .seq [moreExpressions, .spelled [':', '='], expression .inside, guard],
        guard,
        expressionClauses])],
    expressionClauses]

def switchStatement : R :=
  let initializer : R :=
    .seq [.optional (simpleTail .inside), mark ';', switchTail .beforeBlock []]
  group [word .switchWord, switchTail .head [initializer]]

def selectStatement : R :=
  let communication : R := .seq [expression .communication,
    .first [
      .seq [.spelled ['<', '-'], expression .inside],
      .seq [moreExpressions, .first [.spelled [':', '='], mark '='], expression .inside],
      nothing]]
  group [word .selectWord, clauses (clause [word .caseWord, communication])]

def constDeclaration : R :=
  group [word .constWord, .first [terminatedGroup (.ref .constSpec), .ref .constSpec]]

def constSpec : R :=
  group [commaList name,
    .optional (.onLine (.seq [.optional (anyType false), mark '=',
      value (.ref (.expressionList .value))]))]

def varDeclaration : R :=
  group [word .varWord, .first [terminatedGroup (.ref .varSpec), .ref .varSpec]]

def varSpec : R :=
  let values : R := .seq [mark '=', value (.ref (.expressionList .value))]
  group [commaList name,
    .first [values, .seq [anyType true, .optional (.onLine values)]]]

def typeDeclaration : R :=
  group [word .typeWord,
    .first [terminatorSeparated '(' ')' (.ref .typeSpec), .ref .typeSpec]]

def typeSpec : R :=
  let definition : R := .seq [.optional (mark '='), anyType true]
  group [name, .first [.seq [.ref .typeParameters, definition], definition]]

def statement : R :=
  let optionalLabel : R := .optional (.onLine name)
  .first [
    constDeclaration,
    typeDeclaration,
    varDeclaration,
    group [word .returnWord, .optional (.onLine (value (.ref (.expressionList .value))))],
    group [word .goWord, value (expression .value)],
    group [word .deferWord, value (expression .value)],
    .ref .ifStatement,
    forStatement,
    switchStatement,
    selectStatement,
    group [labelHead, .ref .statement],
    word .fallthroughWord,
    group [word .breakWord, optionalLabel],
    group [word .continueWord, optionalLabel],
    group [word .gotoWord, name],
    .ref .block,
    group [mark ';'],
    .seq [.absent labelHead, .node .group (.ref (.simple .statement .value))]]

/-- Statements with terminators between them; the last may be a bare label. -/
def statementList : R :=
  let emptyLabel := group [labelHead]
  .first [
    .seq [separated .terminator (.ref .statement),
      .optional (.seq [.terminator, .optional emptyLabel])],
    emptyLabel]

def block : R :=
  group [mark '\x7b', .optional (.ref .statementList), mark '\x7d']

/-! ## Declarations of a source -/

def importSpec : R :=
  group [.optional (.first [mark '.', name]), .token .stringLiteral]

/-- The result and the body of a declared function. -/
def functionTail : List R :=
  [.ref .parameters, .optional (.onLine (.ref (.result true))), .optional (.onLine (.ref .block))]

def topLevel : R :=
  .node .declaration (.first [
    group [word .packageWord, name],
    group [word .importWord,
      .first [terminatorSeparated '(' ')' (.ref .importSpec), .ref .importSpec]],
    group ([word .funcWord, name, .optional (.ref .typeParameters)] ++ functionTail),
    group ([word .funcWord, .ref .parameters, name] ++ functionTail)])

def sourceFile : R :=
  let methodHead : R := .seq [word .funcWord, .ref .parameters, name, mark '(']
  let item : R := .first [.ref .topLevel, .seq [.absent methodHead, .ref .statement]]
  .node .sourceFile (.seq [.many (.seq [item, .terminator]), .optional (.ref .topLevel)])

/-- The rule of each nonterminal. -/
def rule : Symbol → R
  | .sourceFile => sourceFile
  | .topLevel => topLevel
  | .importSpec => importSpec
  | .constSpec => constSpec
  | .varSpec => varSpec
  | .typeSpec => typeSpec
  | .statement => statement
  | .statementList => statementList
  | .block => block
  | .ifStatement => ifStatement
  | .caseBody => .optional (.ref .statementList)
  | .simple first rest => simple first rest
  | .expression follow => binary follow
  | .unary follow => unary follow
  | .primary follow => primary follow
  | .expressionList follow => expressionList follow
  | .literalBody => literalBody
  | .element => element
  | .arguments => arguments
  | .typeName ends => typeName ends
  | .simpleType ends => simpleType ends
  | .anyType ends => .first [group [mark '(', anyType false, mark ')'], .ref (.simpleType ends)]
  | .typeElement ends =>
    .seq [anyType ends, .many (continuing ends (.seq [mark '|', anyType ends]))]
  | .typeArguments => typeArguments
  | .typeParameters => typeParameters
  | .parameters => parameters
  | .result ends => .first [.ref .parameters, .ref (.simpleType ends)]

end Grammar

end QueryPipe.Go
