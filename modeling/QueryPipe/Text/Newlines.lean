import QueryPipe.Text.Blank

/-!
Line ends at the borders of a text.
-/

namespace QueryPipe.Text

/-- The bytes of `\n` and `\r`. -/
def isNewlineByte (byte : UInt8) : Bool :=
  byte == 10 || byte == 13

/-- A byte string without the line ends before and after it; blanks stay. -/
def stripNewlines (bytes : List UInt8) : List UInt8 :=
  trimBoth isNewlineByte bytes

/-- The characters `\n` and `\r`. -/
def isNewlineChar (char : Char) : Bool :=
  char == '\n' || char == '\r'

/-- A text without the line ends before and after it. -/
def stripNewlineChars (text : String) : String :=
  String.ofList (trimBoth isNewlineChar text.toList)

/-- The text with exactly one `\n` at its end. -/
def endWithNewline (text : String) : String :=
  String.ofList ((text.toList.reverse.dropWhile (· == '\n')).reverse ++ ['\n'])

end QueryPipe.Text
