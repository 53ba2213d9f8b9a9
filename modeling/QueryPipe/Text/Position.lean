/-!
Places in a text, counted the way Go tools print them.
-/

namespace QueryPipe.Text

/-- A line and a byte column, both counted from one. -/
structure Position where
  line : Nat
  column : Nat
deriving DecidableEq, Repr

namespace Position

/-- The beginning of a text. -/
def origin : Position := ⟨1, 1⟩

/-- The place after one more character. -/
def advance (position : Position) (char : Char) : Position :=
  if char == '\n' then ⟨position.line + 1, 1⟩
  else ⟨position.line, position.column + char.utf8Size⟩

/-- The place that lies `offset` bytes into a text. -/
def ofOffset (text : List Char) (offset : Nat) : Position :=
  go origin offset text
where
  go (position : Position) : Nat → List Char → Position
  | 0, _ => position
  | _ + 1, [] => position
  | offset + 1, char :: rest =>
    go (position.advance char) (offset + 1 - char.utf8Size) rest

/-- The pieces of the position as `line:column`. -/
def pieces (position : Position) : List String :=
  [toString position.line, ":", toString position.column]

/-- The position as `line:column`. -/
def render (position : Position) : String :=
  s!"{position.line}:{position.column}"

end Position

end QueryPipe.Text
