import SchemaScope.Index.Columns
import SchemaScope.Index.ForeignKeys
import SchemaScope.Topology

/-!
What is known about the schema of a database. The topology of a cache is fixed;
columns and foreign keys are replaced as a whole, each on its own.

A bare table name is looked for in the default schema, then in the schemas of
the topology in order, and then in those that only the column index knows, in
ascending order.
-/

namespace SchemaScope

/-- The schema of a database as far as it is known. -/
structure SchemaCache where
  /-- Caches are numbered in the order of their installation, from one. -/
  generation : Nat
  topology : Topology
  columns : ColumnIndex := .empty
  foreignKeys : ForeignKeyIndex := .empty

namespace SchemaCache

/-- The columns of a table under a name that may be bare. -/
def columnsOf? (cache : SchemaCache) (name : String) : Option (List Column) :=
  match TableName.parse? name with
  | some n => cache.columns.get? n.schema n.table
  | none =>
      let named (schema : String) := cache.columns.get? schema name
      named cache.topology.defaultSchema
        <|> cache.topology.schemas.findSome? named
        <|> cache.columns.schemas.findSome? named

def columnsIn? (cache : SchemaCache) (schema table : String) :
    Option (List Column) :=
  cache.columns.get? schema table

/-- A column of a table under a name that may be bare. -/
def column? (cache : SchemaCache) (table column : String) : Option Column := do
  (← cache.columnsOf? table).find? (·.name = column)

def foreignKeysOf (cache : SchemaCache) (schema table : String) :
    List Relation :=
  cache.foreignKeys.get schema table

end SchemaCache

end SchemaScope
