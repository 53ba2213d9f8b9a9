import QueryPipe.Yaml.Cursor

/-!
Reading the text of a scalar.  None of these readers gives a result for a text
that breaks the rules of its style.
-/

namespace QueryPipe.Yaml

/-- How a scalar is written. -/
inductive Style where
  | plain
  | singleQuoted
  | doubleQuoted
  | literal
  | folded
deriving DecidableEq, Repr

/-- Blanks and line ends inside a scalar that spans lines. -/
structure Gap where
  /-- Blanks on the current line. -/
  blanks : List Char := []
  /-- The first line end. -/
  firstBreak : List Char := []
  /-- Further line ends. -/
  otherBreaks : List Char := []
  /-- Whether a line has ended. -/
  isBroken : Bool := false
deriving DecidableEq, Repr

namespace Gap

/-- What a gap stands for: a single line end is a blank, further ones remain. -/
def fold (gap : Gap) : List Char :=
  if !gap.isBroken then gap.blanks
  else if gap.firstBreak.head? == some '\n' then
    if gap.otherBreaks.isEmpty then [' '] else gap.otherBreaks
  else gap.firstBreak ++ gap.otherBreaks

/-- Adds a line end. -/
def addBreak (gap : Gap) (text : List Char) : Gap :=
  if gap.isBroken then { gap with otherBreaks := gap.otherBreaks ++ text }
  else { gap with blanks := [], firstBreak := text, isBroken := true }

/-- Adds a blank; at the front of a line it has no meaning. -/
def addBlank (gap : Gap) (char : Char) : Gap :=
  if gap.isBroken then gap else { gap with blanks := gap.blanks ++ [char] }

end Gap

/-- Reads blanks and line ends; `refuses` tells where a blank is wrong. -/
def readGap (refuses : Cursor → Gap → Bool) : (fuel : Nat) → Gap → Cursor → Option (Gap × Cursor)
  | 0, gap, cursor => some (gap, cursor)
  | fuel + 1, gap, cursor =>
    match cursor.at? 0 with
    | none => some (gap, cursor)
    | some char =>
      if isBlank char then
        if refuses cursor gap then none
        else readGap refuses fuel (gap.addBlank char) (cursor.advance 1)
      else if isBreak char then
        let (text, after) := cursor.readBreak
        readGap refuses fuel (gap.addBreak text) after
      else some (gap, cursor)

/-! ## Quoted scalars -/

def hexValue? (char : Char) : Option Nat :=
  if char.isDigit then some (char.toNat - '0'.toNat)
  else if 'a' ≤ char && char ≤ 'f' then some (char.toNat - 'a'.toNat + 10)
  else if 'A' ≤ char && char ≤ 'F' then some (char.toNat - 'A'.toNat + 10)
  else none

/-- The character with a number in hexadecimal digits. -/
def ofHex? (digits : List Char) : Option Char := do
  let values ← digits.mapM hexValue?
  let code := values.foldl (fun code value => 16 * code + value) 0
  if (0xD800 ≤ code && code ≤ 0xDFFF) || code > 0x10FFFF then none else some (Char.ofNat code)

/-- The character that an escape names, and how many characters after the
backslash name it. -/
def escape? (text : List Char) : Option (Char × Nat) :=
  let numbered (digits : List Char) (count : Nat) : Option (Char × Nat) :=
    if digits.length < count then none
    else (ofHex? (digits.take count)).map (·, count + 1)
  match text with
  | [] => none
  | char :: rest =>
    match char with
    | '0' => some ('\x00', 1)
    | 'a' => some ('\x07', 1)
    | 'b' => some ('\x08', 1)
    | 't' => some ('\t', 1)
    | '\t' => some ('\t', 1)
    | 'n' => some ('\n', 1)
    | 'v' => some ('\x0b', 1)
    | 'f' => some ('\x0c', 1)
    | 'r' => some ('\r', 1)
    | 'e' => some ('\x1b', 1)
    | ' ' => some (' ', 1)
    | '"' => some ('"', 1)
    | '/' => some ('/', 1)
    | '\\' => some ('\\', 1)
    | 'N' => some ('\u0085', 1)
    | '_' => some ('\u00a0', 1)
    | 'L' => some ('\u2028', 1)
    | 'P' => some ('\u2029', 1)
    | 'x' => numbered rest 2
    | 'u' => numbered rest 4
    | 'U' => numbered rest 8
    | _ => none

/-- Reads a stretch of a quoted scalar without gaps; the flag tells whether it was
ended by an escaped line end.  The text is reversed. -/
def readStretch (isSingle : Bool) :
    (fuel : Nat) → List Char → Cursor → Option (List Char × Bool × Cursor)
  | 0, text, cursor => some (text, false, cursor)
  | fuel + 1, text, cursor =>
    match cursor.rest with
    | [] => some (text, false, cursor)
    | char :: rest =>
      if isBlank char || isBreak char then some (text, false, cursor)
      else if isSingle then
        if char == '\'' then
          if rest.head? == some '\'' then
            readStretch isSingle fuel ('\'' :: text) (cursor.advance 2)
          else some (text, false, cursor)
        else readStretch isSingle fuel (char :: text) (cursor.advance 1)
      else if char == '"' then some (text, false, cursor)
      else if char == '\\' then
        if rest.head?.any isBreak then some (text, true, (cursor.advance 1).readBreak.2)
        else
          match escape? rest with
          | none => none
          | some (escaped, length) =>
            readStretch isSingle fuel (escaped :: text) (cursor.advance (length + 1))
      else readStretch isSingle fuel (char :: text) (cursor.advance 1)

/-- Reads a quoted scalar after its opening quote.  The text is reversed. -/
def readQuoted (isSingle : Bool) : (fuel : Nat) → List Char → Cursor → Option (List Char × Cursor)
  | 0, _, _ => none
  | fuel + 1, text, cursor =>
    if cursor.seesDocumentMark || cursor.isAtEnd then none
    else
      match readStretch isSingle (cursor.rest.length + 1) text cursor with
      | none => none
      | some (text, isEscaped, cursor) =>
        if cursor.sees 0 (if isSingle then '\'' else '"') then
          some (text, cursor.advance 1)
        else
          match readGap (fun _ _ => false) (cursor.rest.length + 1) { isBroken := isEscaped }
              cursor with
          | none => none
          | some (gap, cursor) =>
            readQuoted isSingle fuel (gap.fold.reverse ++ text) cursor

/-! ## Plain scalars -/

/-- Characters with a meaning of their own in flow collections. -/
def isFlowMark (char : Char) : Bool := [',', '[', ']', '\x7b', '\x7d'].contains char

/-- Whether a plain scalar ends before this character. -/
def endsPlain (isFlow : Bool) (cursor : Cursor) (char : Char) : Bool :=
  (char == ':' && cursor.seesGap 1) || (isFlow && isFlowMark char)

/-- Whether a colon stands where it cannot. -/
def hasStrayColon (isFlow : Bool) (cursor : Cursor) (char : Char) : Bool :=
  isFlow && char == ':' && (cursor.at? 1).any fun next => isFlowMark next || next == '?'

/-- Reads a stretch of a plain scalar without gaps, in reverse. -/
def readPlainStretch (isFlow : Bool) :
    (fuel : Nat) → List Char → Cursor → Option (List Char × Cursor)
  | 0, text, cursor => some (text, cursor)
  | fuel + 1, text, cursor =>
    match cursor.at? 0 with
    | none => some (text, cursor)
    | some char =>
      if isBlank char || isBreak char then some (text, cursor)
      else if hasStrayColon isFlow cursor char then none
      else if endsPlain isFlow cursor char then some (text, cursor)
      else readPlainStretch isFlow fuel (char :: text) (cursor.advance 1)

/-- Reads a plain scalar whose further lines are indented by `indent`.  The text is
reversed; the flag tells whether a line end was read after it. -/
def readPlain (isFlow : Bool) (indent : Int) :
    (fuel : Nat) → List Char → Gap → Cursor → Option (List Char × Bool × Cursor)
  | 0, text, gap, cursor => some (text, gap.isBroken, cursor)
  | fuel + 1, text, gap, cursor =>
    if cursor.seesDocumentMark || cursor.sees 0 '#' then some (text, gap.isBroken, cursor)
    else
      match readPlainStretch isFlow (cursor.rest.length + 1) [] cursor with
      | none => none
      | some (stretch, after) =>
        let (text, gap) :=
          if stretch.isEmpty then (text, gap)
          else (stretch ++ gap.fold.reverse ++ text, {})
        if !(after.seesBlank || after.seesBreak) then some (text, gap.isBroken, after)
        else
          let refuses (cursor : Cursor) (gap : Gap) : Bool :=
            gap.isBroken && (cursor.column : Int) < indent && cursor.sees 0 '\t'
          match readGap refuses (after.rest.length + 1) gap after with
          | none => none
          | some (gap, after) =>
            if !isFlow && (after.column : Int) < indent then some (text, gap.isBroken, after)
            else readPlain isFlow indent fuel text gap after

/-! ## Block scalars -/

/-- Which line ends after the text of a block scalar are kept. -/
inductive Chomping where
  | strip
  | clip
  | keep
deriving DecidableEq, Repr

/-- What stands after the mark of a block scalar: how line ends are kept, and the
indentation if it is given. -/
def readHeader (cursor : Cursor) : Option (Chomping × Nat × Cursor) :=
  let chomping? (char : Option Char) : Option Chomping :=
    match char with
    | some '+' => some .keep
    | some '-' => some .strip
    | _ => none
  let digit? (char : Option Char) : Option Nat :=
    char.bind fun char => if char.isDigit then some (char.toNat - '0'.toNat) else none
  let (chomping, increment?, cursor) :=
    match chomping? (cursor.at? 0) with
    | some chomping =>
      match digit? (cursor.at? 1) with
      | some digit => (chomping, some digit, cursor.advance 2)
      | none => (chomping, none, cursor.advance 1)
    | none =>
      match digit? (cursor.at? 0) with
      | some digit =>
        match chomping? (cursor.at? 1) with
        | some chomping => (chomping, some digit, cursor.advance 2)
        | none => (Chomping.clip, some digit, cursor.advance 1)
      | none => (Chomping.clip, none, cursor)
  if increment? == some 0 then none
  else
    let cursor := cursor.skipWhile isBlank
    let cursor := if cursor.sees 0 '#' then cursor.skipLine else cursor
    if cursor.isAtEnd || cursor.seesBreak then
      some (chomping, increment?.getD 0, cursor.readBreak.2)
    else none

/-- Reads indentation and empty lines.  While the indentation is not known it is
`0`, and the widest one seen is remembered. -/
def readIndentation (indent : Nat) :
    (fuel : Nat) → (widest : Nat) → List Char → Cursor → Option (Nat × List Char × Cursor)
  | 0, widest, breaks, cursor => some (widest, breaks, cursor)
  | fuel + 1, widest, breaks, cursor =>
    let spaces := cursor.rest.takeWhile (· == ' ')
    let count := if indent == 0 then spaces.length
      else min spaces.length (indent - cursor.column)
    let cursor := cursor.advance count
    let widest := max widest cursor.column
    if (indent == 0 || cursor.column < indent) && cursor.sees 0 '\t' then none
    else if cursor.seesBreak then
      let (text, cursor) := cursor.readBreak
      readIndentation indent fuel widest (breaks ++ text) cursor
    else some (widest, breaks, cursor)

/-- Reads the lines of a block scalar.  The text is reversed; the first line end
and further ones after it are left over. -/
def readBlockLines (isLiteral : Bool) (indent : Nat) :
    (fuel : Nat) → List Char → (firstBreak : List Char) → (otherBreaks : List Char) →
    (wasBlank : Bool) → Cursor → Option (List Char × List Char × List Char × Cursor)
  | 0, text, firstBreak, otherBreaks, _, cursor => some (text, firstBreak, otherBreaks, cursor)
  | fuel + 1, text, firstBreak, otherBreaks, wasBlank, cursor =>
    if cursor.column != indent || cursor.isAtEnd then
      some (text, firstBreak, otherBreaks, cursor)
    else
      let isBlankLine := cursor.seesBlank
      let joint :=
        if !isLiteral && firstBreak.head? == some '\n' && !wasBlank && !isBlankLine then
          if otherBreaks.isEmpty then [' '] else []
        else firstBreak
      let line := cursor.rest.takeWhile (!isBreak ·)
      let text := line.reverse ++ otherBreaks.reverse ++ joint.reverse ++ text
      let (firstBreak, cursor) := (cursor.advance line.length).readBreak
      match readIndentation indent (cursor.rest.length + 1) 0 [] cursor with
      | none => none
      | some (_, otherBreaks, cursor) =>
        readBlockLines isLiteral indent fuel text firstBreak otherBreaks isBlankLine cursor

/-- Reads a block scalar after its mark, inside a collection with an indentation. -/
def readBlock (isLiteral : Bool) (outer : Int) (cursor : Cursor) :
    Option (List Char × Cursor) :=
  match readHeader cursor with
  | none => none
  | some (chomping, increment, cursor) =>
    let given := if increment == 0 then 0
      else if 0 ≤ outer then outer.toNat + increment else increment
    match readIndentation given (cursor.rest.length + 1) 0 [] cursor with
    | none => none
    | some (widest, breaks, cursor) =>
      let indent := if given == 0 then max (max widest (outer + 1).toNat) 1 else given
      match readBlockLines isLiteral indent (cursor.rest.length + 1) [] [] breaks false cursor with
      | none => none
      | some (text, firstBreak, otherBreaks, cursor) =>
        let ending := match chomping with
          | .strip => []
          | .clip => firstBreak
          | .keep => firstBreak ++ otherBreaks
        some (text.reverse ++ ending, cursor)

end QueryPipe.Yaml
