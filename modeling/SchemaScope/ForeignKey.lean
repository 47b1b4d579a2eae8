import SchemaScope.TableName

/-!
Foreign keys. A relation is an ordered list of pairs, one for each column of the
key.
-/

namespace SchemaScope

/-- A column of a foreign key and the column it points at. -/
structure ColumnPair where
  column : ColumnId
  referenced : ColumnId
  deriving DecidableEq, Repr

/-- A foreign key: its column pairs in order. A relation that was read from data
may have none. -/
structure Relation where
  pairs : List ColumnPair
  deriving DecidableEq, Repr

namespace Relation

def single (pair : ColumnPair) : Relation := ⟨[pair]⟩

/-- Add the next pair of a composite key. -/
def push (r : Relation) (pair : ColumnPair) : Relation := ⟨r.pairs ++ [pair]⟩

/-- The table that has the key; a relation without pairs has none. -/
def table? (r : Relation) : Option TableName :=
  r.pairs.head?.map (TableName.ofColumn ·.column)

/-- The table that the key points at; a relation without pairs has none. -/
def referencedTable? (r : Relation) : Option TableName :=
  r.pairs.head?.map (TableName.ofColumn ·.referenced)

end Relation

/-- One column of a foreign key, as a database lists it. -/
structure ForeignKeyRow where
  /-- What tells the keys of a table apart. -/
  constraint : String
  table : String
  column : String
  referencedTable : String
  referencedColumn : String
  /-- `none` where the database does not say it. -/
  referencedSchema : Option String := none
  deriving DecidableEq, Repr

namespace ForeignKeyRow

/-- The column pair of a row in a schema. A row that names no referenced schema
points into its own. -/
def pair (schema : String) (row : ForeignKeyRow) : ColumnPair where
  column := ⟨schema, row.table, row.column⟩
  referenced :=
    ⟨row.referencedSchema.getD schema, row.referencedTable,
      row.referencedColumn⟩

/-- Two rows belong to one key if they follow each other. -/
def sameKey (a b : ForeignKeyRow) : Bool :=
  a.constraint = b.constraint && a.table = b.table

end ForeignKeyRow

end SchemaScope
