import SchemaScope.OrderedMap
import SchemaScope.TableName

/-!
The column index: the columns of every table, in the order in which they were
given.
-/

namespace SchemaScope

/-- Columns by table. -/
structure ColumnIndex where
  tables : OrderedMap TableName (List Column)

namespace ColumnIndex

def empty : ColumnIndex := ⟨OrderedMap.empty⟩

instance : Inhabited ColumnIndex := ⟨empty⟩

/-- Add a column behind those of its table. -/
def insert (index : ColumnIndex) (column : Column) : ColumnIndex :=
  ⟨index.tables.update (TableName.ofColumn column.id) fun known =>
    known.getD [] ++ [column]⟩

def insertAll (index : ColumnIndex) (columns : List Column) : ColumnIndex :=
  columns.foldl insert index

def ofColumns (columns : List Column) : ColumnIndex := insertAll empty columns

/-- The columns of a table, if it has any. -/
def get? (index : ColumnIndex) (schema table : String) : Option (List Column) :=
  index.tables.get? ⟨schema, table⟩

/-- The number of tables that have a column. -/
def tableCount (index : ColumnIndex) : Nat := index.tables.entries.length

def isEmpty (index : ColumnIndex) : Bool := index.tables.entries.isEmpty

/-- The schemas that have a table with columns, in ascending order. -/
def schemas (index : ColumnIndex) : List String :=
  (index.tables.keys.map TableName.schema).eraseDups.mergeSort

end ColumnIndex

end SchemaScope
