import SchemaScope.ForeignKey
import SchemaScope.Json.Record
import SchemaScope.QueryResult

/-!
The JSON forms of what is known about a schema.
-/

namespace SchemaScope

open Json (Decoded toText toRecord)

namespace ColumnId

def toJson (id : ColumnId) : Json :=
  .object [("schema", .string id.schema), ("table", .string id.table),
    ("name", .string id.name)]

def ofJson : Json → Decoded ColumnId :=
  toRecord "ColumnIdentity" 3 fun source =>
    mk <$> source.take 0 "schema" toText <*> source.take 1 "table" toText
      <*> source.take 2 "name" toText

end ColumnId

namespace Column

def toJson (c : Column) : Json :=
  .object [("identity", c.id.toJson), ("data_type", .string c.dataType),
    ("nullable", .string c.nullable), ("key", .string c.key),
    ("default", .ofOption .string c.defaultValue), ("extra", .string c.extra)]

def ofJson : Json → Decoded Column :=
  toRecord "ColumnDescriptor" 6 fun source =>
    mk <$> source.take 0 "identity" ColumnId.ofJson
      <*> source.take 1 "data_type" toText <*> source.take 2 "nullable" toText
      <*> source.take 3 "key" toText <*> source.takeOption 4 "default" toText
      <*> source.take 5 "extra" toText

end Column

namespace ColumnPair

def toJson (pair : ColumnPair) : Json :=
  .object [("local", pair.column.toJson),
    ("referenced", pair.referenced.toJson)]

def ofJson : Json → Decoded ColumnPair :=
  toRecord "ColumnPair" 2 fun source =>
    mk <$> source.take 0 "local" ColumnId.ofJson
      <*> source.take 1 "referenced" ColumnId.ofJson

end ColumnPair

namespace Relation

def toJson (r : Relation) : Json :=
  .object [("pairs", .array (r.pairs.map ColumnPair.toJson))]

/-- A relation from JSON. The list of pairs may be empty. -/
def ofJson : Json → Decoded Relation :=
  toRecord "ForeignKeyRelation" 1 fun source =>
    mk <$> source.take 0 "pairs" (Json.toList ColumnPair.ofJson)

end Relation

namespace QueryResult

def toJson (r : QueryResult) : Json :=
  .object [("columns", .strings r.columns),
    ("rows", .array (r.rows.map fun row =>
      .array (row.map (.ofOption .string))))]

def ofJson : Json → Decoded QueryResult :=
  toRecord "QueryResult" 2 fun source =>
    mk <$> source.take 0 "columns" (Json.toList toText)
      <*> source.take 1 "rows"
        (Json.toList (Json.toList (Json.toOption toText)))

end QueryResult

namespace ExecResult

def toJson (r : ExecResult) : Json :=
  .object [("rows_affected", .natural r.rowsAffected.toNat)]

def ofJson : Json → Decoded ExecResult :=
  toRecord "ExecResult" 1 fun source =>
    mk <$> source.take 0 "rows_affected" Json.toWord

end ExecResult

end SchemaScope
