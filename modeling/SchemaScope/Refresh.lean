import SchemaScope.Index.Columns
import SchemaScope.Index.ForeignKeys
import SchemaScope.Inquiry
import SchemaScope.Topology

/-!
What is asked to learn the schema of a database: first its topology, then its
columns and foreign keys.
-/

namespace SchemaScope

/-- Ask for the topology. The names of databases need not be offered. -/
def Topology.inquiry : Inquiry Topology := do
  let currentDatabase ← Inquiry.optional .currentDatabase
  let databases ← Inquiry.optional .databases
  let currentSchema ← Inquiry.question .currentSchema
  let schemas ← Inquiry.question .schemas
  let tables ← Inquiry.question .schemaTables
  return Topology.ofAnswers currentDatabase (databases.getD []) currentSchema
    schemas tables

namespace ColumnIndex

def inquireSchemas : ColumnIndex → List String → Inquiry ColumnIndex
  | index, [] => pure index
  | index, schema :: rest => do
    let columns ← Inquiry.question (.schemaColumns schema)
    inquireSchemas (index.insertAll columns) rest

/-- Ask for all columns at once, or schema by schema if that is not offered. -/
def inquiry (schemas : List String) : Inquiry ColumnIndex :=
  .ask .databaseColumns fun
    | .ok columns => .done (.ok (ofColumns columns))
    | .error e =>
      if e.isNotImplemented then inquireSchemas empty schemas
      else .done (.error e)

end ColumnIndex

namespace ForeignKeyIndex

/-- Ask for the foreign keys of schemas one after the other. A relation without
pairs ends the inquiry without an index. -/
def inquireSchemas :
    ForeignKeyIndex → List String → Inquiry (Option ForeignKeyIndex)
  | index, [] => pure (some index)
  | index, schema :: rest => do
    let relations ← Inquiry.question (.schemaForeignKeys schema)
    match index.insertAll? schema relations with
    | some index => inquireSchemas index rest
    | none => pure none

def inquiry (schemas : List String) : Inquiry (Option ForeignKeyIndex) :=
  inquireSchemas empty schemas

end ForeignKeyIndex

end SchemaScope
