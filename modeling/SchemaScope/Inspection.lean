import SchemaScope.SchemaCache

/-!
A schema on paper: schemas, their tables, and of each table the columns and
foreign keys.
-/

namespace SchemaScope.Inspection

def nameWidth : Nat := 24

/-- A text with blanks behind it up to a width. -/
def pad (width : Nat) (text : String) : String :=
  text ++ String.ofList (List.replicate (width - text.length) ' ')

def columnLine (c : Column) : String :=
  "    " ++ pad nameWidth c.name ++ " " ++ c.summary

def relationLine (r : Relation) : String :=
  let columns (names : List String) := "(" ++ ", ".intercalate names ++ ")"
  "    fk " ++ columns (r.pairs.map (·.column.name)) ++ " -> "
    ++ (r.referencedTable?.map TableName.display).getD "" ++ " "
    ++ columns (r.pairs.map (·.referenced.name))

def tableLines (cache : SchemaCache) (schema table : String) : List String :=
  ("  " ++ table) :: ((cache.columnsIn? schema table).getD []).map columnLine
    ++ (cache.foreignKeysOf schema table).map relationLine

def schemaLines (cache : SchemaCache) (schema : String) : List String :=
  "" :: ("schema " ++ schema) ::
    (cache.topology.tablesOf schema).flatMap (tableLines cache schema)

def lines (cache : SchemaCache) : List String :=
  (cache.topology.currentDatabase.map ("database: " ++ ·)).toList
    ++ ("default schema: " ++ cache.topology.defaultSchema) ::
      cache.topology.schemas.flatMap (schemaLines cache)

end SchemaScope.Inspection
