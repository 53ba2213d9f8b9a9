/-!
Format verbs and the texts that stand for them while a command looks at a query.
-/

namespace QueryPipe.Template

/-- The verbs that are filled in. -/
inductive Verb where
  | decimal
  | value
  | string
deriving DecidableEq, Repr

namespace Verb

/-- All verbs, in the order in which their sentinels are tried. -/
def all : List Verb := [decimal, value, string]

/-- The character that comes after the marker. -/
def letter : Verb → Char
  | decimal => 'd'
  | value => 'v'
  | string => 's'

/-- The verb with a letter. -/
def ofLetter? (letter : Char) : Option Verb :=
  all.find? (·.letter == letter)

/-- The text that takes the place of a verb. -/
def sentinel : Verb → List Char
  | decimal => ['-', '9', '9', '9']
  | value => ['_', 'D', 'U', 'M', 'M', 'Y', '_', 'V', 'A', 'L', 'U', 'E', '_']
  | string => ['_', 'D', 'U', 'M', 'M', 'Y', '_', 'S', 'T', 'R', 'I', 'N', 'G', '_']

end Verb

/-- The character that introduces a verb. -/
def marker : Char := '%'

/-- A template cut by the marker rule: a marker always takes the character
after it along, whatever it is. -/
inductive Piece where
  | plain (char : Char)
  | verb (verb : Verb)
  | other (char : Char)
  | lone
deriving DecidableEq, Repr

namespace Piece

/-- The pair of a marker and the character after it. -/
def ofPair (char : Char) : Piece :=
  match Verb.ofLetter? char with
  | some found => verb found
  | none => other char

/-- The characters of a piece in a template. -/
def source : Piece → List Char
  | plain char => [char]
  | .verb found => [marker, found.letter]
  | other char => [marker, char]
  | lone => [marker]

/-- The characters of a piece in a filled template. -/
def filled : Piece → List Char
  | .verb found => found.sentinel
  | piece => piece.source

/-- The verb of a piece that is one. -/
def verb? : Piece → Option Verb
  | .verb found => some found
  | _ => none

end Piece

/-- Reads a template by the marker rule. -/
def pieces : List Char → List Piece
  | [] => []
  | [char] => [if char == marker then .lone else .plain char]
  | first :: second :: rest =>
    if first == marker then Piece.ofPair second :: pieces rest
    else .plain first :: pieces (second :: rest)

/-- The verbs of a template, in order. -/
def verbs (template : List Char) : List Verb :=
  (pieces template).filterMap Piece.verb?

end QueryPipe.Template
