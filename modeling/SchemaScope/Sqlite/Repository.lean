import SchemaScope.Connection
import SchemaScope.OrderedMap
import SchemaScope.Repository
import SchemaScope.Sqlite.ForeignKeys

/-!
An SQLite database as a repository.
-/

namespace SchemaScope.Sqlite.Catalog

/-- The schema of bare table names. -/
def mainSchema : String := "main"

/-- The file of the database, or what stands for one in memory. -/
def currentDatabase (c : Catalog) : Except String String :=
  c.schemas.map fun schemas =>
    let file := ((schemas.find? (·.1 = mainSchema)).map Prod.snd).getD ""
    if file.isEmpty then Connection.inMemory else file

/-- The tables of all schemas. A name that is listed twice has the tables of its
last occurrence. -/
def schemaTables (c : Catalog) :
    Except String (List (String × List String)) := do
  let schemas ← c.schemas
  let tables ← schemas.mapM fun schema => return (schema.1, ← c.tables schema.1)
  return (OrderedMap.ofList tables).entries

/-- What the database refuses, as an error. -/
def refused {α : Type} (r : Except String α) : Outcome α := r.mapError .engine

/-- A database that answers questions about its schema. -/
def repository (c : Catalog) : Repository where
  dialect := .sqlite
  answer := fun
    | .currentDatabase => refused c.currentDatabase
    | .databases => refused (c.currentDatabase.map ([·]))
    | .currentSchema => .ok mainSchema
    | .schemas => refused (c.schemas.map (·.map Prod.fst))
    | .schemaTables => refused c.schemaTables
    | .databaseColumns => refused c.columns
    | .schemaColumns schema => refused (c.schemaColumns schema)
    | .schemaForeignKeys schema => refused (c.foreignKeys schema)
    | .query sql => refused ((c.query sql).map Rows.render)
    | .exec sql => refused ((c.exec sql).map ExecResult.mk)

end SchemaScope.Sqlite.Catalog
