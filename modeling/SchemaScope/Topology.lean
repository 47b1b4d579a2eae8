import SchemaScope.NameSet
import SchemaScope.OrderedMap
import SchemaScope.TableName

/-!
The topology of a database: its schemas and the tables of each, in the order in
which the database reports them.
-/

namespace SchemaScope

structure Topology where
  currentDatabase : Option String := none
  databases : List String := []
  /-- The schema of bare table names. -/
  defaultSchema : String := ""
  tables : OrderedMap String NameSet := OrderedMap.empty

namespace Topology

/-- Add tables to a schema, which is added itself if it is not there. -/
def addTables (m : OrderedMap String NameSet) (schema : String)
    (tables : List String) : OrderedMap String NameSet :=
  m.update schema fun known => (known.getD .empty).insertAll tables

/-- The tables of the listed schemas; schemas that are only reported together
with their tables follow them. -/
def merge (schemas : List String) (tables : List (String × List String)) :
    OrderedMap String NameSet :=
  let listed := schemas.foldl (fun m schema => addTables m schema []) .empty
  tables.foldl (fun m (schema, names) => addTables m schema names) listed

/-- The topology that a database's answers describe. Where it names no current
schema, the first one is taken. -/
def ofAnswers (currentDatabase : Option String) (databases : List String)
    (currentSchema : String) (schemas : List String)
    (tables : List (String × List String)) : Topology :=
  let merged := merge schemas tables
  { currentDatabase
    databases
    defaultSchema :=
      if currentSchema.isEmpty then merged.keys.headD "" else currentSchema
    tables := merged }

def schemas (t : Topology) : List String := t.tables.keys

def tablesOf (t : Topology) (schema : String) : List String :=
  ((t.tables.get? schema).getD .empty).names

/-- All tables, schema by schema. -/
def allTables (t : Topology) : List TableName :=
  t.tables.entries.flatMap fun (schema, set) => set.names.map (⟨schema, ·⟩)

def hasTable (t : Topology) (schema table : String) : Bool :=
  (t.tablesOf schema).contains table

end Topology

end SchemaScope
