/-!
Ordering lists by their first difference.
-/

namespace QueryPipe.Text

/-- Whether a list comes before another one or is the same: it is smaller where
they first differ, or all of it stands at the front of the other. -/
def precedes (isLess : α → α → Bool) : List α → List α → Bool
  | [], _ => true
  | _ :: _, [] => false
  | left :: lefts, right :: rights =>
    if isLess left right then true
    else if isLess right left then false
    else precedes isLess lefts rights

/-- Whether a character has the smaller code. -/
def isLessChar (left right : Char) : Bool := left < right

/-- Whether a text comes before another one, by the codes of their characters. -/
def isLess (left right : String) : Bool :=
  !precedes isLessChar right.toList left.toList

end QueryPipe.Text
