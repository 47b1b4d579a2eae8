import SchemaScope.Column
import SchemaScope.Text.Dotted

/-!
Names of tables with their schema. The name of a table is what follows the last
dot; all before it is the name of the schema, which may hold dots.
-/

namespace SchemaScope

structure TableName where
  schema : String
  table : String
  deriving DecidableEq, Repr

namespace TableName

def display (n : TableName) : String :=
  n.schema ++ "." ++ n.table

/-- The name that a text stands for. A text without a dot is the bare name of a
table, and one with nothing before or behind its last dot is no name. -/
def parse? (text : String) : Option TableName :=
  match Text.splitQualifier text with
  | some (schema, table) =>
    if schema.isEmpty || table.isEmpty then none else some ⟨schema, table⟩
  | none => none

def ofColumn (id : ColumnId) : TableName := ⟨id.schema, id.table⟩

/-- The order of names: by schema, then by table. -/
def atMost (a b : TableName) : Bool :=
  a.schema < b.schema || (a.schema = b.schema && a.table ≤ b.table)

/-- Names in ascending order, each one once. -/
def sortDistinct (names : List TableName) : List TableName :=
  names.eraseDups.mergeSort atMost

end TableName

end SchemaScope
