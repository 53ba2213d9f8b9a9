/-!
Blank text: characters with the Unicode property White_Space.
-/

namespace QueryPipe.Text

/-- The property White_Space. -/
def isBlankChar (char : Char) : Bool :=
  let code := char.toNat
  (9 ≤ code && code ≤ 13) || code == 0x20 || code == 0x85 || code == 0xA0 || code == 0x1680
    || (0x2000 ≤ code && code ≤ 0x200A) || code == 0x2028 || code == 0x2029
    || code == 0x202F || code == 0x205F || code == 0x3000

/-- Drops the elements at both ends that satisfy a test. -/
def trimBoth (drop : α → Bool) (items : List α) : List α :=
  ((items.dropWhile drop).reverse.dropWhile drop).reverse

/-- The text without blank characters at its ends. -/
def trim (text : String) : String :=
  String.ofList (trimBoth isBlankChar text.toList)

/-- Whether nothing but blank characters stands in the text. -/
def isBlank (text : String) : Bool :=
  text.toList.all isBlankChar

end QueryPipe.Text
