import SchemaScope.SchemaCache
import SchemaScope.Text.Cursor

/-!
Completions. Behind a dot stand the tables of a schema or the columns of a
table; elsewhere stand schemas and tables, those of the default schema by their
bare names.
-/

namespace SchemaScope

inductive CompletionKind where
  | schema
  | table
  | column
  deriving DecidableEq, Repr

structure Completion where
  label : String
  kind : CompletionKind
  detail : String
  deriving DecidableEq, Repr

namespace Completion

def ofSchema (name : String) : Completion := ⟨name, .schema, "schema"⟩

def ofTable (label : String) : Completion := ⟨label, .table, "table"⟩

def ofColumn (c : Column) : Completion := ⟨c.name, .column, c.summary⟩

/-- How a table is written where a bare name means one of the default schema. -/
def tableLabel (cache : SchemaCache) (n : TableName) : String :=
  if n.schema = cache.topology.defaultSchema then n.table else n.display

/-- Completions of what has been typed before and behind a dot. -/
def qualified (cache : SchemaCache) (qualifier start : String) :
    List Completion :=
  ((cache.topology.tablesOf qualifier).filter
      (Text.beginsWith · start)).map ofTable
    ++ (((cache.columnsOf? qualifier).getD []).filter
        (Text.beginsWith ·.name start)).map ofColumn

/-- Completions of a name without a dot. A table also stands under the beginning
of its schema's name. -/
def bare (cache : SchemaCache) (start : String) : List Completion :=
  (cache.topology.schemas.filter (Text.beginsWith · start)).map ofSchema
    ++ (cache.topology.allTables.filter fun n =>
        Text.beginsWith n.table start || Text.beginsWith n.schema start).map
      (ofTable <| tableLabel cache ·)

/-- Completions of a name that may be dotted. -/
def complete (cache : SchemaCache) (typed : String) : List Completion :=
  match Text.splitQualifier typed with
  | some (qualifier, start) => qualified cache qualifier start
  | none => bare cache typed

def completeAt (cache : SchemaCache) (text : String)
    (position : Text.Position) : List Completion :=
  complete cache (Text.identifierBefore text position)

end Completion

end SchemaScope
