import QueryPipe.Yaml.Tag

/-!
From the characters of a document to its tokens.  Indentation becomes tokens that
open and close collections.  Whether a scalar is a key is known only when the
colon after it is read; the token that says so is then put in front of it.
-/

namespace QueryPipe.Yaml

/-- A place where a key may have begun. -/
structure KeyCandidate where
  /-- How many tokens stand before it. -/
  position : Nat
  line : Nat
  index : Nat
  column : Nat
  /-- Whether nothing but a key can stand here. -/
  isRequired : Bool
deriving DecidableEq, Repr

/-- What has been read of a document. -/
structure Scan where
  cursor : Cursor
  tokens : List Token := []
  /-- The column of the innermost block collection; `-1` outside of all. -/
  indent : Int := -1
  /-- The columns of the collections around it. -/
  outer : List Int := []
  /-- The candidate of the current level. -/
  candidate? : Option KeyCandidate := none
  /-- The candidates of the levels around a flow collection, innermost first. -/
  suspended : List (Option KeyCandidate) := []
  /-- Whether a key may begin here. -/
  allowsKey : Bool := true

namespace Scan

/-- Whether a flow collection is open. -/
def isFlow (scan : Scan) : Bool := !scan.suspended.isEmpty

def push (scan : Scan) (token : Token) : Scan :=
  { scan with tokens := scan.tokens ++ [token] }

/-- Adds a token read up to a place. -/
def pushTo (scan : Scan) (token : Token) (cursor : Cursor) : Scan :=
  { scan.push token with cursor }

/-- Skips characters. -/
def skip (scan : Scan) (count : Nat) : Scan :=
  { scan with cursor := scan.cursor.advance count }

/-- How far a key may reach. -/
def keyLimit : Nat := 1024

/-- Whether the place is too far from a candidate for it to be a key. -/
def isStale (scan : Scan) (candidate : KeyCandidate) : Bool :=
  candidate.line < scan.cursor.line || candidate.index + keyLimit < scan.cursor.index

/-- Gives the candidate of the current level up; it must not be required. -/
def dropCandidate (scan : Scan) : Option Scan :=
  if scan.candidate?.any (·.isRequired) then none else some { scan with candidate? := none }

/-- Gives up candidates that are too far away. -/
def dropStale (scan : Scan) : Option Scan :=
  let isLost (candidate? : Option KeyCandidate) : Bool := candidate?.any scan.isStale
  let isError (candidate? : Option KeyCandidate) : Bool :=
    candidate?.any fun candidate => scan.isStale candidate && candidate.isRequired
  if isError scan.candidate? || scan.suspended.any isError then none
  else
    some { scan with
      candidate? := if isLost scan.candidate? then none else scan.candidate?
      suspended := scan.suspended.map fun candidate? =>
        if isLost candidate? then none else candidate? }

/-- Notes that a key may begin here. -/
def noteCandidate (scan : Scan) : Option Scan :=
  if !scan.allowsKey then some scan
  else
    scan.dropCandidate.map fun scan =>
      { scan with candidate? := some {
          position := scan.tokens.length
          line := scan.cursor.line
          index := scan.cursor.index
          column := scan.cursor.column
          isRequired := !scan.isFlow && scan.indent == scan.cursor.column } }

/-- Closes the block collections that are indented more than a column. -/
def closeBlocks (column : Int) : (fuel : Nat) → Scan → Scan
  | 0, scan => scan
  | fuel + 1, scan =>
    if scan.isFlow || scan.indent ≤ column then scan
    else
      closeBlocks column fuel { scan.push .blockEnd with
        indent := scan.outer.head?.getD (-1)
        outer := scan.outer.drop 1 }

/-- Closes the block collections that are indented more than a column. -/
def unindent (scan : Scan) (column : Int) : Scan :=
  closeBlocks column (scan.outer.length + 1) scan

/-- Opens a block collection at a column, unless it is open already; its token
comes after `position` others. -/
def openBlock (scan : Scan) (column position : Nat) (token : Token) : Scan :=
  if scan.isFlow || (column : Int) ≤ scan.indent then scan
  else
    { scan with
      indent := column
      outer := scan.indent :: scan.outer
      tokens := scan.tokens.take position ++ token :: scan.tokens.drop position }

/-- Skips blanks, comments and line ends. -/
def skipSpace : (fuel : Nat) → Scan → Scan
  | 0, scan => scan
  | fuel + 1, scan =>
    let cursor := scan.cursor.skipWhile fun char =>
      char == ' ' || (char == '\t' && (scan.isFlow || !scan.allowsKey))
    let cursor := if cursor.sees 0 '#' then cursor.skipLine else cursor
    if cursor.seesBreak then
      skipSpace fuel { scan with
        cursor := cursor.readBreak.2
        allowsKey := scan.allowsKey || !scan.isFlow }
    else { scan with cursor }

/-! ## Reading tokens -/

/-- Ends all blocks before a mark of the document. -/
def endBlocks (scan : Scan) : Option Scan :=
  (scan.unindent (-1)).dropCandidate.map ({ · with allowsKey := false })

def readDocumentMark (scan : Scan) (token : Token) : Option Scan :=
  scan.endBlocks.map fun scan => (scan.push token).skip 3

def openFlow (scan : Scan) (token : Token) : Option Scan :=
  scan.noteCandidate.map fun scan =>
    { (scan.push token).skip 1 with
      suspended := scan.candidate? :: scan.suspended
      candidate? := none
      allowsKey := true }

def closeFlow (scan : Scan) (token : Token) : Option Scan :=
  scan.dropCandidate.map fun scan =>
    { (scan.push token).skip 1 with
      candidate? := (scan.suspended.head?).getD none
      suspended := scan.suspended.drop 1
      allowsKey := false }

def readFlowEntry (scan : Scan) : Option Scan :=
  scan.dropCandidate.map fun scan => { (scan.push .flowEntry).skip 1 with allowsKey := true }

def readBlockEntry (scan : Scan) : Option Scan :=
  if !scan.isFlow && !scan.allowsKey then none
  else
    let scan := scan.openBlock scan.cursor.column scan.tokens.length .blockSequenceStart
    scan.dropCandidate.map fun scan => { (scan.push .blockEntry).skip 1 with allowsKey := true }

def readKey (scan : Scan) : Option Scan :=
  if !scan.isFlow && !scan.allowsKey then none
  else
    let scan := scan.openBlock scan.cursor.column scan.tokens.length .blockMappingStart
    scan.dropCandidate.map fun scan =>
      { (scan.push .key).skip 1 with allowsKey := !scan.isFlow }

def readValue (scan : Scan) : Option Scan :=
  match scan.candidate? with
  | some candidate =>
    let position := candidate.position
    let keyed := { scan with
      tokens := scan.tokens.take position ++ Token.key :: scan.tokens.drop position
      candidate? := none
      allowsKey := false }
    some (((keyed.openBlock candidate.column position .blockMappingStart).push .value).skip 1)
  | none =>
    if !scan.isFlow && !scan.allowsKey then none
    else
      let scan := scan.openBlock scan.cursor.column scan.tokens.length .blockMappingStart
      some { (scan.push .value).skip 1 with allowsKey := !scan.isFlow }

/-- Reads something that may begin a key. -/
def readPart (scan : Scan) (read : Cursor → Option (Token × Cursor)) : Option Scan := do
  let scan ← scan.noteCandidate
  let (token, cursor) ← read scan.cursor
  return { scan.pushTo token cursor with allowsKey := false }

def readBlockScalar (scan : Scan) (isLiteral : Bool) : Option Scan := do
  let scan ← scan.dropCandidate
  let (text, cursor) ← readBlock isLiteral scan.indent (scan.cursor.advance 1)
  let style := if isLiteral then Style.literal else Style.folded
  return { scan.pushTo (.scalar (String.ofList text) style) cursor with allowsKey := true }

def readQuotedScalar (scan : Scan) (isSingle : Bool) : Option Scan :=
  scan.readPart fun cursor =>
    (readQuoted isSingle (cursor.rest.length + 1) [] (cursor.advance 1)).map fun (text, cursor) =>
      (.scalar (String.ofList text.reverse)
        (if isSingle then .singleQuoted else .doubleQuoted), cursor)

def readPlainScalar (scan : Scan) : Option Scan := do
  let scan ← scan.noteCandidate
  let (text, isBroken, cursor) ←
    readPlain scan.isFlow (scan.indent + 1) (scan.cursor.rest.length + 1) [] {} scan.cursor
  return { scan.pushTo (.scalar (String.ofList text.reverse) .plain) cursor with
    allowsKey := isBroken }

/-- Whether a plain scalar may begin with a character. -/
def beginsPlain (scan : Scan) (char : Char) : Bool :=
  let marks := ['-', '?', ':', ',', '[', ']', '\x7b', '\x7d', '#', '&', '*', '!', '|', '>', '\'',
    '"', '%', '@', '`']
  !(isBlank char || marks.contains char)
    || (char == '-' && !(scan.cursor.at? 1).any isBlank)
    || (!scan.isFlow && (char == '?' || char == ':') && !scan.cursor.seesGap 1)

/-- Reads the token that a character begins. -/
def readToken (scan : Scan) (char : Char) : Option Scan :=
  let cursor := scan.cursor
  let isLoose := scan.isFlow || cursor.seesGap 1
  if cursor.column == 0 && char == '%' then do
    let scan ← scan.endBlocks
    let (token, cursor) ← readDirective (cursor.advance 1)
    return scan.pushTo token cursor
  else if cursor.seesDocumentMark then
    scan.readDocumentMark (if char == '-' then .documentStart else .documentEnd)
  else if char == '[' then scan.openFlow .flowSequenceStart
  else if char == '\x7b' then scan.openFlow .flowMappingStart
  else if char == ']' then scan.closeFlow .flowSequenceEnd
  else if char == '\x7d' then scan.closeFlow .flowMappingEnd
  else if char == ',' then scan.readFlowEntry
  else if char == '-' && cursor.seesGap 1 then scan.readBlockEntry
  else if char == '?' && isLoose then scan.readKey
  else if char == ':' && isLoose then scan.readValue
  else if char == '*' then
    scan.readPart fun cursor => (readName (cursor.advance 1)).map fun (name, cursor) =>
      (.alias name, cursor)
  else if char == '&' then
    scan.readPart fun cursor => (readName (cursor.advance 1)).map fun (name, cursor) =>
      (.anchor name, cursor)
  else if char == '!' then
    scan.readPart fun cursor => (readTag scan.isFlow cursor).map fun (tag, cursor) =>
      (.tag tag, cursor)
  else if char == '|' && !scan.isFlow then scan.readBlockScalar true
  else if char == '>' && !scan.isFlow then scan.readBlockScalar false
  else if char == '\'' then scan.readQuotedScalar true
  else if char == '"' then scan.readQuotedScalar false
  else if scan.beginsPlain char then scan.readPlainScalar
  else none

/-- Reads all tokens; each step of `fuel` reads at least one character. -/
def run : (fuel : Nat) → Scan → Option (List Token)
  | 0, _ => none
  | fuel + 1, scan => do
    let scan := skipSpace (scan.cursor.rest.length + 1) scan
    let scan ← scan.dropStale
    let scan := scan.unindent scan.cursor.column
    match scan.cursor.at? 0 with
    | none => return (← (scan.unindent (-1)).dropCandidate).tokens
    | some char => run fuel (← scan.readToken char)

end Scan

/-- U+FEFF, which may stand in front of a document. -/
def byteOrderMark : Char := '\ufeff'

/-- The tokens of a document, if it can be cut into tokens. -/
def tokens? (text : List Char) : Option (List Token) :=
  let text := if text.head? == some byteOrderMark then text.drop 1 else text
  if text.all isPrintable then Scan.run (text.length + 2) { cursor := { rest := text } } else none

end QueryPipe.Yaml
