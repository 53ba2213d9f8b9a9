import QueryPipe.Go.Tree

/-!
Grammars as values, and the parser that follows them.

A rule applied to a list of tokens gives every way in which it can begin
there: the trees it builds and the tokens that are left.  Comments may stand
before any token and become leaves; line ends may stand before any token and
are dropped, except where a rule asks for a terminator or forbids a line end.

`union` keeps all alternatives; `first`, `optional`, `many` and `chain` commit
to what matches.  A rule that wraps a node around what was already read
(`extend`, `chain`) builds trees that lean to the left.
-/

namespace QueryPipe.Go

/-- A class of tokens. -/
inductive Terminal where
  /-- A name that is no keyword of any kind. -/
  | plainName
  /-- A name, or a soft keyword used as one. -/
  | name
  | keyword (word : Keyword)
  | number
  | rune
  | stringLiteral
deriving DecidableEq, Repr

/-- Whether a token is in the class. -/
def Terminal.accepts (terminal : Terminal) (token : Token) : Bool :=
  match terminal, token.kind with
  | plainName, .name => true
  | name, .name => true
  | name, .keyword word => word.isSoft
  | keyword word, .keyword actual => word == actual
  | number, .number => true
  | rune, .rune => true
  | stringLiteral, .stringLiteral => true
  | _, _ => false

/-- A grammar rule over nonterminals `σ`. -/
inductive Rule (σ : Type) where
  /-- One token of a class. -/
  | token (terminal : Terminal)
  /-- Marks without a gap between them. -/
  | spelled (marks : List Char)
  /-- A line end, a semicolon or a NUL.  At the end of the source the scanner reads a NUL;
  which statements may end so is asked once the tree is there. -/
  | terminator
  /-- The rule, where no line end and no end of the source comes first. -/
  | onLine (rule : Rule σ)
  /-- One rule after another. -/
  | seq (rules : List (Rule σ))
  /-- Every alternative. -/
  | union (rules : List (Rule σ))
  /-- The first alternative that matches. -/
  | first (rules : List (Rule σ))
  /-- The rule if it matches, else nothing. -/
  | optional (rule : Rule σ)
  /-- The rule as often as it matches. -/
  | many (rule : Rule σ)
  /-- Nothing, provided that the rule does not match here. -/
  | absent (rule : Rule σ)
  /-- The rule, with its trees put under a node. -/
  | node (kind : NodeKind) (rule : Rule σ)
  /-- The base, and the step once if it matches (or always, where `needed`);
  the node that the step builds takes the base as its first children. -/
  | extend (needed : Bool) (base step : Rule σ)
  /-- The base, and the step as often as it matches. -/
  | chain (base step : Rule σ)
  /-- The rule of a nonterminal. -/
  | ref (symbol : σ)

/-- One way to match: the trees built and the tokens left. -/
abbrev Match := List Tree × List Token

/-- Comments from the front of a token list, in reverse. -/
def takeComments (found : List Tree) : List Token → Match
  | token :: rest =>
    if token.kind == .comment then takeComments (.leaf token :: found) rest
    else (found, token :: rest)
  | [] => (found, [])

/-- Comments from the front of a token list, in reverse; line ends are dropped. -/
def takeTrivia (found : List Tree) : List Token → Match
  | token :: rest =>
    match token.kind with
    | .comment => takeTrivia (.leaf token :: found) rest
    | .lineEnd => takeTrivia found rest
    | _ => (found, token :: rest)
  | [] => (found, [])

/-- Matches one token of a class. -/
def matchToken (terminal : Terminal) (tokens : List Token) : List Match :=
  match takeTrivia [] tokens with
  | (trivia, token :: rest) =>
    if terminal.accepts token then [((.leaf token :: trivia).reverse, rest)] else []
  | (_, []) => []

/-- Matches marks that follow one another without a gap. -/
def matchGlued (stop : Nat) (found : List Tree) : List Char → List Token → List Match
  | [], tokens => [(found.reverse, tokens)]
  | char :: marks, token :: rest =>
    if token.kind == .mark char && token.start == stop then
      matchGlued token.stop (.leaf token :: found) marks rest
    else []
  | _ :: _, [] => []

/-- Matches marks, the first of which may follow comments and line ends. -/
def matchMarks (marks : List Char) (tokens : List Token) : List Match :=
  match takeTrivia [] tokens with
  | (trivia, token :: rest) => matchGlued token.start trivia marks (token :: rest)
  | (_, []) => []

/-- Matches the end of a statement; the end of the source is read as a NUL. -/
def matchTerminator (tokens : List Token) : List Match :=
  match takeComments [] tokens with
  | (comments, token :: rest) =>
    match token.kind with
    | .lineEnd | .nul | .mark ';' => [((.leaf token :: comments).reverse, rest)]
    | _ => []
  | (comments, []) => [(comments.reverse, [])]

/-- Whether the next token that is no comment exists and is no line end. -/
def continuesLine (tokens : List Token) : Bool :=
  match (takeComments [] tokens).2 with
  | token :: _ => token.kind != .lineEnd
  | [] => false

/-- Applies rules one after another. -/
def matchSeq (apply : Rule σ → List Token → List Match) :
    List (Rule σ) → List Token → List Match
  | [], tokens => [([], tokens)]
  | [rule], tokens => apply rule tokens
  | rule :: rules, tokens =>
    (apply rule tokens).flatMap fun (trees, rest) =>
      (matchSeq apply rules rest).map fun (more, left) => (trees ++ more, left)

/-- Applies the first rule that matches. -/
def matchFirst (apply : Rule σ → List Token → List Match) :
    List (Rule σ) → List Token → List Match
  | [], _ => []
  | rule :: rules, tokens =>
    match apply rule tokens with
    | [] => matchFirst apply rules tokens
    | matches_ => matches_

/-- Applies a step as often as it matches, at most `limit` times. -/
def matchMany (step : List Token → List Match) :
    (limit : Nat) → List Tree → List Token → List Match
  | 0, found, tokens => [(found.reverse, tokens)]
  | limit + 1, found, tokens =>
    match step tokens with
    | [] => [(found.reverse, tokens)]
    | [(trees, rest)] => matchMany step limit (trees.reverse ++ found) rest
    | matches_ => matches_.flatMap fun (trees, rest) =>
      matchMany step limit (trees.reverse ++ found) rest

/-- Puts trees before the children of the node that a step built. -/
def graft (base : List Tree) : List Tree → List Tree
  | [.node kind children] => [.node kind (base ++ children)]
  | trees => base ++ trees

/-- Applies a step to what was already read, as often as it matches. -/
def matchChain (step : List Token → List Match) :
    (limit : Nat) → List Tree → List Token → List Match
  | 0, base, tokens => [(base, tokens)]
  | limit + 1, base, tokens =>
    match step tokens with
    | [] => [(base, tokens)]
    | [(trees, rest)] => matchChain step limit (graft base trees) rest
    | matches_ => matches_.flatMap fun (trees, rest) =>
      matchChain step limit (graft base trees) rest

/-- Every way in which a rule of the grammar matches at the front of a token
list.  The number bounds how deeply rules are nested. -/
def Rule.matches (grammar : σ → Rule σ) : Nat → Rule σ → List Token → List Match
  | 0, _, _ => []
  | fuel + 1, rule, tokens =>
    let apply := Rule.matches grammar fuel
    match rule with
    | token terminal => matchToken terminal tokens
    | spelled marks => matchMarks marks tokens
    | terminator => matchTerminator tokens
    | onLine rule => if continuesLine tokens then apply rule tokens else []
    | seq rules => matchSeq apply rules tokens
    | union rules => rules.flatMap fun rule => apply rule tokens
    | first rules => matchFirst apply rules tokens
    | optional rule =>
      match apply rule tokens with
      | [] => [([], tokens)]
      | matches_ => matches_
    | many rule => matchMany (apply rule) fuel [] tokens
    | absent rule => if (apply rule tokens).isEmpty then [([], tokens)] else []
    | node kind rule => (apply rule tokens).map fun (trees, rest) => ([.node kind trees], rest)
    | extend needed base step =>
      (apply base tokens).flatMap fun (trees, rest) =>
        match apply step rest with
        | [] => if needed then [] else [(trees, rest)]
        | matches_ => matches_.map fun (more, left) => (graft trees more, left)
    | chain base step =>
      (apply base tokens).flatMap fun (trees, rest) => matchChain (apply step) fuel trees rest
    | ref symbol => apply (grammar symbol) tokens

end QueryPipe.Go
