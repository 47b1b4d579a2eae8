/-!
Columns as a database describes them. The markers of a column are free text of
its dialect.
-/

namespace SchemaScope

/-- The address of a column. -/
structure ColumnId where
  schema : String
  table : String
  name : String
  deriving DecidableEq, Repr

namespace ColumnId

def display (id : ColumnId) : String :=
  id.schema ++ "." ++ id.table ++ "." ++ id.name

/-- The order of addresses: by schema, then by table, then by name. -/
def atMost (a b : ColumnId) : Bool :=
  a.schema < b.schema
    || (a.schema = b.schema
      && (a.table < b.table || (a.table = b.table && a.name ≤ b.name)))

def sort (ids : List ColumnId) : List ColumnId := ids.mergeSort atMost

end ColumnId

/-- A column and its markers. -/
structure Column where
  id : ColumnId
  dataType : String
  nullable : String := ""
  key : String := ""
  defaultValue : Option String := none
  extra : String := ""
  deriving DecidableEq, Repr

namespace Column

def name (c : Column) : String := c.id.name

/-- How a key marker is shown: a marker that only says no is left out. -/
def keyText (key : String) : String :=
  if key = "NO" then "" else if key = "YES" then "PRIMARY KEY" else key

/-- A column on one line: its type in backticks, its key and its flags, as far
as there are any. -/
def summary (c : Column) : String :=
  let dataType := if c.dataType.isEmpty then "" else "`" ++ c.dataType ++ "`"
  " ".intercalate
    ([dataType, keyText c.key, c.extra].filter fun item => !item.isEmpty)

end Column

end SchemaScope
