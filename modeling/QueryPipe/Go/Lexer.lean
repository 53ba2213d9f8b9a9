import QueryPipe.Go.Letters
import QueryPipe.Go.Token
import QueryPipe.Text.Utf8

/-!
Cutting a Go source into tokens.  Each measure below looks at the characters
from one place on and gives the length of the longest token of its kind that
begins there.  A line end is a token, because it may end a statement; other
white space only separates.

A NUL is a token of its own and never part of another one.
-/

namespace QueryPipe.Go

/-! ## Comments -/

/-- The length of the rest of a line. -/
def lineLength (text : List Char) : Nat :=
  (text.takeWhile fun char => char != '\n' && char != '\x00').length

/-- The length up to the end of a block comment, if it ends. -/
def blockCommentLength? (length : Nat) : List Char → Option Nat
  | '*' :: '/' :: _ => some (length + 2)
  | '\x00' :: _ => none
  | _ :: rest => blockCommentLength? (length + 1) rest
  | [] => none

/-- The length of the comment that begins here, if one does. -/
def commentLength? : List Char → Option Nat
  | '/' :: '/' :: rest => some (lineLength rest + 2)
  | '/' :: '*' :: rest => blockCommentLength? 2 rest
  | _ => none

/-- White space that separates tokens. -/
def isSpace (char : Char) : Bool :=
  char == ' ' || char == '\t' || char == '\n' || char == '\r' || char == '\x0b' || char == '\x0c'

/-! ## Numbers

Numbers are short, so their parts are read off the front one after another and
the length is what was taken in all. -/

def isHexDigit (char : Char) : Bool :=
  char.isDigit || ('a' ≤ char && char ≤ 'f') || ('A' ≤ char && char ≤ 'F')

def isOctalDigit (char : Char) : Bool :=
  '0' ≤ char && char ≤ '7'

def isBinaryDigit (char : Char) : Bool :=
  char == '0' || char == '1'

/-- The rest after further digits, each of which may follow one underscore. -/
def skipMoreDigits (isDigit : Char → Bool) : List Char → List Char
  | '_' :: char :: rest =>
    if isDigit char then skipMoreDigits isDigit rest else '_' :: char :: rest
  | char :: rest => if isDigit char then skipMoreDigits isDigit rest else char :: rest
  | [] => []

/-- The rest after one or more digits with single underscores between them. -/
def skipDigits? (isDigit : Char → Bool) : List Char → Option (List Char)
  | char :: rest => if isDigit char then some (skipMoreDigits isDigit rest) else none
  | [] => none

/-- The rest after digits that an underscore may introduce. -/
def skipMarkedDigits? (isDigit : Char → Bool) : List Char → Option (List Char)
  | '_' :: rest => skipDigits? isDigit rest
  | text => skipDigits? isDigit text

/-- The rest after an exponent introduced by one of two letters. -/
def skipExponent? (lower upper : Char) : List Char → Option (List Char)
  | letter :: rest =>
    if letter == lower || letter == upper then
      match rest with
      | '+' :: digits | '-' :: digits => skipDigits? Char.isDigit digits
      | digits => skipDigits? Char.isDigit digits
    else none
  | [] => none

/-- What is left when an optional part is read where it can be. -/
def orStay (skip : List Char → Option (List Char)) (text : List Char) : List Char :=
  (skip text).getD text

/-- Integers. -/
def skipInteger? : List Char → Option (List Char)
  | '0' :: rest =>
    let special := match rest with
      | 'x' :: digits | 'X' :: digits => skipMarkedDigits? isHexDigit digits
      | 'b' :: digits | 'B' :: digits => skipMarkedDigits? isBinaryDigit digits
      | 'o' :: digits | 'O' :: digits => skipMarkedDigits? isOctalDigit digits
      | digits => skipMarkedDigits? isOctalDigit digits
    some (special.getD rest)
  | char :: rest =>
    if char.isDigit then some (orStay (skipMarkedDigits? Char.isDigit) rest) else none
  | [] => none

/-- Decimal fractions and decimal numbers with an exponent. -/
def skipDecimalFloat? (text : List Char) : Option (List Char) :=
  match text with
  | '.' :: rest => (skipDigits? Char.isDigit rest).map (orStay (skipExponent? 'e' 'E'))
  | _ =>
    match skipDigits? Char.isDigit text with
    | none => none
    | some ('.' :: rest) =>
      some (orStay (skipExponent? 'e' 'E') (orStay (skipDigits? Char.isDigit) rest))
    | some rest => skipExponent? 'e' 'E' rest

/-- The part of a hexadecimal fraction before its exponent. -/
def skipHexMantissa? (text : List Char) : Option (List Char) :=
  match text with
  | '.' :: rest => skipDigits? isHexDigit rest
  | _ =>
    match skipMarkedDigits? isHexDigit text with
    | some ('.' :: rest) => some (orStay (skipDigits? isHexDigit) rest)
    | other => other

/-- Hexadecimal fractions, which need an exponent. -/
def skipHexFloat? : List Char → Option (List Char)
  | '0' :: 'x' :: rest | '0' :: 'X' :: rest =>
    (skipHexMantissa? rest).bind (skipExponent? 'p' 'P')
  | _ => none

/-- The rest after an `i` that follows what `skip` reads. -/
def skipImaginary? (skip : List Char → Option (List Char)) (text : List Char) :
    Option (List Char) :=
  match skip text with
  | some ('i' :: rest) => some rest
  | _ => none

/-- Characters that occur in numbers. -/
def isNumberChar (char : Char) : Bool :=
  char.isAlphanum || char == '_' || char == '.' || char == '+' || char == '-'

/-- The ways to read a number. -/
def numberForms : List (List Char → Option (List Char)) :=
  let plain := [skipInteger?, skipDecimalFloat?, skipHexFloat?]
  plain ++ (skipDigits? Char.isDigit :: plain).map skipImaginary?

/-- The length of the longest number that begins here, zero if none does. -/
def numberLength (text : List Char) : Nat :=
  let candidate := text.takeWhile isNumberChar
  numberForms.foldl (fun longest skip =>
    match skip candidate with
    | some rest => max longest (candidate.length - rest.length)
    | none => longest) 0

/-! ## Quoted tokens -/

/-- Whether a text begins with `count` characters of a class. -/
def beginsWith (accepts : Char → Bool) (count : Nat) (text : List Char) : Bool :=
  (text.take count).length == count && (text.take count).all accepts

/-- The length of what follows a backslash inside double quotes. -/
def escapeLength? : List Char → Option Nat
  | 'x' :: rest => if beginsWith isHexDigit 2 rest then some 3 else none
  | 'u' :: rest => if beginsWith isHexDigit 4 rest then some 5 else none
  | 'U' :: rest => if beginsWith isHexDigit 8 rest then some 9 else none
  | '\x00' :: _ => none
  | _ :: _ => some 1
  | [] => none

/-- The length of white space and the comment behind it. -/
def brokenLineLength? (text : List Char) : Option Nat :=
  let blank := (text.takeWhile isSpace).length
  (commentLength? (text.drop blank)).map (blank + ·)

/-- The length up to the closing double quote.  A line end inside the quotes is
accepted only together with a comment behind it.  The first argument counts
characters that are already known to belong to the literal. -/
def interpretedLength? : Nat → Nat → List Char → Option Nat
  | skip + 1, length, _ :: rest => interpretedLength? skip (length + 1) rest
  | 0, length, '"' :: _ => some (length + 1)
  | 0, length, '\\' :: rest =>
    match escapeLength? rest with
    | some known => interpretedLength? known (length + 1) rest
    | none => none
  | 0, length, '\n' :: rest =>
    match brokenLineLength? rest with
    | some known => interpretedLength? known (length + 1) rest
    | none => none
  | 0, length, char :: rest =>
    if char == '\x00' then none else interpretedLength? 0 (length + 1) rest
  | _, _, [] => none

/-- The length up to the closing backquote. -/
def rawLength? (length : Nat) : List Char → Option Nat
  | '`' :: _ => some (length + 1)
  | '\x00' :: _ => none
  | _ :: rest => rawLength? (length + 1) rest
  | [] => none

/-- The length of what follows a backslash between single quotes. -/
def runeEscapeLength? : List Char → Option Nat
  | 'x' :: rest => if beginsWith isHexDigit 2 rest then some 3 else none
  | 'u' :: rest => if beginsWith isHexDigit 4 rest then some 5 else none
  | 'U' :: rest => if beginsWith isHexDigit 8 rest then some 9 else none
  | char :: rest =>
    if isOctalDigit char then if beginsWith isOctalDigit 2 rest then some 3 else none
    else if ['a', 'b', 'f', 'n', 'r', 't', 'v', '\\', '\'', '"'].contains char then some 1
    else none
  | [] => none

/-- The length of one character between single quotes, with the closing one. -/
def runeLength? (text : List Char) : Option Nat :=
  let body := match text with
    | '\\' :: rest => (runeEscapeLength? rest).map (· + 1)
    | '\'' :: _ | '\x00' :: _ => none
    | _ :: _ => some 1
    | [] => none
  match body with
  | some length =>
    match text.drop length with
    | '\'' :: _ => some (length + 1)
    | _ => none
  | none => none

/-! ## Tokens -/

/-- Characters that are tokens or parts of operators. -/
def isMark (char : Char) : Bool :=
  ['(', ')', '[', ']', '\x7b', '\x7d', ',', ';', '.', ':', '=', '+', '-', '*', '/', '%', '&',
    '|', '^', '<', '>', '!', '~'].contains char

/-- The kind of a word. -/
def wordKind (word : List Char) : TokenKind :=
  match Keyword.ofWord? word with
  | some keyword => .keyword keyword
  | none => .name

/-- The kind and the length of the token that begins with `char`. -/
def nextToken? (char : Char) (rest : List Char) : Option (TokenKind × Nat) :=
  if char == '\n' then some (.lineEnd, 1)
  else if char == '\x00' then some (.nul, 1)
  else if char == '"' then (interpretedLength? 0 1 rest).map (.stringLiteral, ·)
  else if char == '`' then (rawLength? 1 rest).map (.stringLiteral, ·)
  else if char == '\'' then (runeLength? rest).map fun length => (.rune, length + 1)
  else if char == '/' then
    match commentLength? (char :: rest) with
    | some length => some (.comment, length)
    | none => some (.mark char, 1)
  else if char == '.' || char.isDigit then
    match numberLength (char :: rest) with
    | 0 => some (.mark char, 1)
    | length => some (.number, length)
  else if isMark char then some (.mark char, 1)
  else if isNameStart char then
    let word := char :: rest.takeWhile isNameContinue
    some (wordKind word, word.length)
  else none

/-- Collects tokens in reverse.  The number counts characters that belong to
the token found last.  On failure, the offset where no token begins. -/
def lexInto (found : List Token) : Nat → Nat → List Char → Except Nat (List Token)
  | _, _, [] => .ok found.reverse
  | skip + 1, offset, char :: rest => lexInto found skip (offset + char.utf8Size) rest
  | 0, offset, char :: rest =>
    if isSpace char && char != '\n' then lexInto found 0 (offset + 1) rest
    else
      match nextToken? char rest with
      | none => .error offset
      | some (kind, length) =>
        let text := (char :: rest).take length
        let token := ⟨kind, offset, offset + Text.Utf8.byteLength text, text⟩
        lexInto (token :: found) (length - 1) (offset + char.utf8Size) rest

/-- The byte order mark, which is passed over at the very start only. -/
def byteOrderMark : Char := '\uFEFF'

/-- The tokens of a source, or the offset where no token begins. -/
def lex : List Char → Except Nat (List Token)
  | char :: rest =>
    if char == byteOrderMark then lexInto [] 0 char.utf8Size rest
    else lexInto [] 0 0 (char :: rest)
  | [] => .ok []

end QueryPipe.Go
