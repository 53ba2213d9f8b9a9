import QueryPipe.Literal.Requote
import QueryPipe.Template.Placeholders
import QueryPipe.Text.Newlines

/-!
The query inside a literal: what a command is given, and what becomes of its
answer.
-/

namespace QueryPipe.Literal

/-- The body of a literal as a template: without delimiters and backquotes. -/
def template (raw : List Char) : List Char :=
  dropBackquotes (stripDelimiters raw)

/-- The query that a command is given for a literal. -/
def query (raw : List Char) : List Char :=
  Template.fill (template raw)

/-- The record that puts the verbs of a literal back. -/
def placeholders (raw : List Char) : Template.Placeholders :=
  Template.placeholders (template raw)

/-- The literal that a command leaves which prints what it reads, where the
literal is no format template. -/
def roundTrip (raw : List Char) : List Char :=
  requote (Text.trimBoth Text.isNewlineChar (query raw)) (.of raw)

/-- The literal that a command leaves which prints what it reads, where the
literal is a format template; none if the verbs cannot be put back. -/
def roundTripTemplate? (raw : List Char) : Option (List Char) :=
  ((placeholders raw).restore? (Text.trimBoth Text.isNewlineChar (query raw))).map
    (requote · (.of raw))

end QueryPipe.Literal
