import QueryPipe.Literal.Style

/-!
Turning text back into a string literal.  Text from an interpreted literal is
still escaped, text from a raw literal is not; the quoting keeps each meaning
what it meant.
-/

namespace QueryPipe.Literal

/-- A text on lines of its own between backquotes. -/
def rawLines (text : List Char) : List Char :=
  [backquote, '\n'] ++ text ++ ['\n', backquote]

/-- A text between two equal delimiters. -/
def between (delimiter : Char) (text : List Char) : List Char :=
  delimiter :: text ++ [delimiter]

/-- Writes line ends of escaped text as escapes. -/
def joinLine (char : Char) : List Char :=
  match char with
  | '\n' => ['\\', 'n']
  | '\r' => ['\\', 'r']
  | _ => [char]

/-- Writes a character of plain text for an interpreted literal. -/
def escape (char : Char) : List Char :=
  match char with
  | '\\' => ['\\', '\\']
  | '"' => ['\\', '"']
  | '\n' => ['\\', 'n']
  | '\r' => ['\\', 'r']
  | '\t' => ['\\', 't']
  | _ => [char]

/-- Quotes a text that comes from a literal of a style.

Text of several lines goes between backquotes on lines of its own, and a single
line goes between double quotes.  Escaped text that holds a backslash or a
backquote stays between double quotes with its lines joined; plain text that
holds a backquote is escaped, and a single line of it that double quotes could
not hold as it is keeps backquotes. -/
def requote (text : List Char) (style : Style) : List Char :=
  match style with
  | .interpreted =>
    if !text.contains '\n' then between doubleQuote text
    else if text.contains '\\' || text.contains backquote then
      between doubleQuote (text.flatMap joinLine)
    else rawLines text
  | .raw =>
    if text.contains backquote then between doubleQuote (text.flatMap escape)
    else if text.contains '\n' then rawLines text
    else if text.contains doubleQuote || text.contains '\\' then between backquote text
    else between doubleQuote text

end QueryPipe.Literal
