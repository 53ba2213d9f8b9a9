/-!
Cutting a text at a separator.
-/

namespace QueryPipe.Text

/-- Cuts at the separator; `piece` holds what was read of the current piece, in
reverse. -/
def splitPieces [BEq α] (separator : α) (piece : List α) : List α → List (List α)
  | [] => [piece.reverse]
  | item :: rest =>
    if item == separator then piece.reverse :: splitPieces separator [] rest
    else splitPieces separator (item :: piece) rest

/-- The pieces of a list between separators.  There is one more piece than there
are separators. -/
def splitOn [BEq α] (separator : α) (items : List α) : List (List α) :=
  splitPieces separator [] items

end QueryPipe.Text
