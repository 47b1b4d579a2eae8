import SchemaScope.Sqlite.Cell
import SchemaScope.Text.Like

/-!
What an SQLite database says about itself. Every attached database is a schema
of its own; the schema for temporary tables belongs to the connection and is not
listed.
-/

namespace SchemaScope.Sqlite

/-- A column in the description of a table. -/
structure TableInfo where
  name : String
  dataType : String
  notNull : Bool
  defaultValue : Option String
  /-- The place in the primary key, counted from one; zero outside of it. -/
  keyPlace : Int
  deriving DecidableEq, Repr

/-- A column in the list of foreign keys of a table. -/
structure ForeignKeyInfo where
  id : Int
  sequence : Int
  referencedTable : String
  column : String
  /-- `none` where the key points at the primary key of the other table. -/
  referencedColumn : Option String
  deriving DecidableEq, Repr

/-- A row of the table that lists what a schema holds. -/
structure MasterRow where
  type : String
  name : String
  deriving DecidableEq, Repr

/-- A database that answers queries, each with rows or with the reason why it
refuses. -/
structure Catalog where
  /-- The attached databases: name and file. -/
  databaseList : Except String (List (String × Option String))
  master : (schema : String) → Except String (List MasterRow)
  tableInfo : (schema table : String) → Except String (List TableInfo)
  foreignKeyList : (schema table : String) → Except String (List ForeignKeyInfo)
  query : (sql : String) → Except String Rows
  exec : (sql : String) → Except String UInt64

namespace Catalog

/-- A new database in memory. Without an engine behind it, it takes no
statements. -/
def new : Catalog where
  databaseList := .ok [("main", some "")]
  master _ := .ok []
  tableInfo _ _ := .ok []
  foreignKeyList _ _ := .ok []
  query _ := .error "not authorized"
  exec _ := .error "not authorized"

/-- The schema of temporary tables. -/
def temporary : String := "temp"

/-- The schemas and their files. -/
def schemas (c : Catalog) : Except String (List (String × String)) :=
  c.databaseList.map fun list =>
    (list.map fun (name, file) => (name, file.getD "")).filter
      fun (name, _) => name ≠ temporary

/-- The pattern of names that are the database's own. -/
def internalPattern : List Char := "sqlite_%".toList

/-- A row stands for a table or view of the user. -/
def MasterRow.isTable (row : MasterRow) : Bool :=
  (row.type = "table" || row.type = "view") &&
    !Text.like internalPattern row.name.toList

/-- The tables and views of a schema, in the order of their creation. -/
def tables (c : Catalog) (schema : String) : Except String (List String) :=
  (c.master schema).map fun rows =>
    (rows.filter MasterRow.isTable).map MasterRow.name

end Catalog

end SchemaScope.Sqlite
