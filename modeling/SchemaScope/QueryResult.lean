/-!
Results of statements that are passed through to a database.
-/

namespace SchemaScope

/-- The rows of a query. A cell is text; an empty cell is `none`. -/
structure QueryResult where
  columns : List String
  rows : List (List (Option String))
  deriving DecidableEq, Repr

/-- The result of a statement that returns no rows. -/
structure ExecResult where
  rowsAffected : UInt64
  deriving DecidableEq, Repr

end SchemaScope
