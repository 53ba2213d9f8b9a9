/-!
A place in a document, and the classes of characters that its form rests on.
-/

namespace QueryPipe.Yaml

/-- Characters that end a line. -/
def isBreak (char : Char) : Bool :=
  char == '\n' || char == '\r' || char == '\u0085' || char == '\u2028' || char == '\u2029'

/-- Blanks within a line. -/
def isBlank (char : Char) : Bool := char == ' ' || char == '\t'

/-- Characters of names. -/
def isNameChar (char : Char) : Bool := char.isAlphanum || char == '_' || char == '-'

/-- Characters that may stand in a document. -/
def isPrintable (char : Char) : Bool :=
  let code := char.toNat
  code == 9 || code == 10 || code == 13 || (0x20 ≤ code && code ≤ 0x7E) || code == 0x85
    || (0xA0 ≤ code && code ≤ 0xD7FF) || (0xE000 ≤ code && code ≤ 0xFFFD) || 0x10000 ≤ code

/-- A place in a document. -/
structure Cursor where
  rest : List Char
  index : Nat := 0
  line : Nat := 0
  column : Nat := 0
deriving DecidableEq, Repr

namespace Cursor

/-- The character at a distance. -/
def at? (cursor : Cursor) (distance : Nat) : Option Char := cursor.rest[distance]?

def isAtEnd (cursor : Cursor) : Bool := cursor.rest.isEmpty

/-- Whether a character stands at a distance. -/
def sees (cursor : Cursor) (distance : Nat) (char : Char) : Bool :=
  cursor.at? distance == some char

/-- Whether a blank, a line end or the end of the document stands at a distance. -/
def seesGap (cursor : Cursor) (distance : Nat) : Bool :=
  match cursor.at? distance with
  | none => true
  | some char => isBlank char || isBreak char

def seesBlank (cursor : Cursor) : Bool := (cursor.at? 0).any isBlank

def seesBreak (cursor : Cursor) : Bool := (cursor.at? 0).any isBreak

/-- The place some characters further on the same line. -/
def advance (cursor : Cursor) (count : Nat) : Cursor :=
  { cursor with
    rest := cursor.rest.drop count
    index := cursor.index + count
    column := cursor.column + count }

/-- Reads a line end.  All but two of them are read as `\n`. -/
def readBreak (cursor : Cursor) : List Char × Cursor :=
  let nextLine (count : Nat) : Cursor :=
    { rest := cursor.rest.drop count
      index := cursor.index + count
      line := cursor.line + 1
      column := 0 }
  match cursor.rest with
  | '\r' :: '\n' :: _ => (['\n'], nextLine 2)
  | char :: _ =>
    if char == '\u2028' || char == '\u2029' then ([char], nextLine 1)
    else if isBreak char then (['\n'], nextLine 1)
    else ([], cursor)
  | [] => ([], cursor)

/-- The place after characters of a class. -/
def skipWhile (cursor : Cursor) (test : Char → Bool) : Cursor :=
  cursor.advance (cursor.rest.takeWhile test).length

/-- The place after the rest of a line. -/
def skipLine (cursor : Cursor) : Cursor := cursor.skipWhile (!isBreak ·)

/-- Whether a mark of a document's start or end stands here. -/
def seesDocumentMark (cursor : Cursor) : Bool :=
  cursor.column == 0 && (['-', '-', '-'].isPrefixOf cursor.rest
    || ['.', '.', '.'].isPrefixOf cursor.rest) && cursor.seesGap 3

end Cursor

end QueryPipe.Yaml
