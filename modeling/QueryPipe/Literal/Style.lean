/-!
The two ways to write a string literal.
-/

namespace QueryPipe.Literal

/-- The delimiter of raw literals. -/
def backquote : Char := '`'

/-- The delimiter of interpreted literals. -/
def doubleQuote : Char := '"'

/-- The style of a string literal. -/
inductive Style where
  /-- Between double quotes; the body is escaped. -/
  | interpreted
  /-- Between backquotes; the body is taken as it is. -/
  | raw
deriving DecidableEq, Repr

/-- The style of a literal as written. -/
def Style.of : List Char → Style
  | char :: _ => if char == backquote then .raw else .interpreted
  | [] => .interpreted

/-- Removes a pair of equal delimiters around a text, if there is one. -/
def stripDelimiters (text : List Char) : List Char :=
  match text with
  | char :: rest =>
    if (char == doubleQuote || char == backquote) && rest.getLast? == some char then
      rest.dropLast
    else text
  | [] => []

/-- Removes every backquote. -/
def dropBackquotes (text : List Char) : List Char :=
  text.filter (· != backquote)

end QueryPipe.Literal
