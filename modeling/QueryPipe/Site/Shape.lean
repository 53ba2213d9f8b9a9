/-!
Which string literals of a source are queries.
-/

namespace QueryPipe.Site

/-- The query is the field `fieldName` of a literal of a type `typeName` from
some package: either a string literal, or the first argument of a call of
`formatPackage.formatFunction`. -/
structure Shape where
  typeName : String := "Statement"
  fieldName : String := "SQL"
  formatPackage : String := "fmt"
  formatFunction : String := "Sprintf"
deriving DecidableEq, Repr

/-- How a query literal stands in its statement. -/
inductive Kind where
  /-- As the value of the field. -/
  | plain
  /-- As the template of the format call. -/
  | template
deriving DecidableEq, Repr

end QueryPipe.Site
