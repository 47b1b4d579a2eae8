import SchemaScope.Column
import SchemaScope.Sqlite.Catalog

/-!
The columns of SQLite tables.
-/

namespace SchemaScope.Sqlite

namespace TableInfo

def isKey (info : TableInfo) : Bool := 0 < info.keyPlace

/-- A column that numbers its rows by itself: the only one of the primary key,
and an integer. -/
def numbersRows (table : List TableInfo) (info : TableInfo) : Bool :=
  info.isKey && (table.filter isKey).length = 1 &&
    Text.sameIgnoringCase info.dataType "INTEGER"

def column (schema name : String) (table : List TableInfo) (info : TableInfo) :
    Column where
  id := ⟨schema, name, info.name⟩
  dataType := info.dataType
  nullable := if info.notNull then "NO" else "YES"
  key := if info.isKey then "PRI" else ""
  defaultValue := info.defaultValue
  extra := if numbersRows table info then "auto_increment" else ""

end TableInfo

namespace Catalog

def tableColumns (c : Catalog) (schema table : String) :
    Except String (List Column) :=
  (c.tableInfo schema table).map fun infos =>
    infos.map (TableInfo.column schema table infos)

def schemaColumns (c : Catalog) (schema : String) :
    Except String (List Column) := do
  let tables ← c.tables schema
  return (← tables.mapM (c.tableColumns schema)).flatten

def columns (c : Catalog) : Except String (List Column) := do
  let schemas ← c.schemas
  return (← schemas.mapM fun schema => c.schemaColumns schema.1).flatten

end Catalog

end SchemaScope.Sqlite
