/-!
The lines of a text.  A line keeps its end, so the lines put together are the
text again.
-/

namespace QueryPipe.Patch

/-- Cuts off a line; `taken` holds the characters already read, in reverse.  A
line ends after `\n`, after `\r\n`, and after a `\r` that no `\n` follows. -/
def linesInto (lines : List String) (taken : List Char) : List Char → List String
  | [] =>
    if taken.isEmpty then lines.reverse else (String.ofList taken.reverse :: lines).reverse
  | '\r' :: '\n' :: rest =>
    linesInto (String.ofList ('\n' :: '\r' :: taken).reverse :: lines) [] rest
  | char :: rest =>
    if char == '\n' || char == '\r' then
      linesInto (String.ofList (char :: taken).reverse :: lines) [] rest
    else linesInto lines (char :: taken) rest

/-- The lines of a text. -/
def lines (text : String) : List String := linesInto [] [] text.toList

/-- Whether a line ends with a line end. -/
def isEnded (line : String) : Bool :=
  match line.toList.getLast? with
  | some char => char == '\n' || char == '\r'
  | none => false

end QueryPipe.Patch
