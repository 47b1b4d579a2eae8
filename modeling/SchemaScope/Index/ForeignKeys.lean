import SchemaScope.ForeignKey
import SchemaScope.OrderedMap

/-!
The foreign-key index: the relations of every table, filed under the schema that
was asked about them.
-/

namespace SchemaScope

/-- Relations by schema and table. -/
structure ForeignKeyIndex where
  tables : OrderedMap TableName (List Relation)

namespace ForeignKeyIndex

def empty : ForeignKeyIndex := ⟨OrderedMap.empty⟩

instance : Inhabited ForeignKeyIndex := ⟨empty⟩

/-- Add a relation under a schema, behind those of its table. A relation without
pairs belongs to no table and cannot be filed. -/
def insert? (schema : String) (index : ForeignKeyIndex) (relation : Relation) :
    Option ForeignKeyIndex :=
  relation.table?.map fun name =>
    ⟨index.tables.update ⟨schema, name.table⟩ fun known =>
      known.getD [] ++ [relation]⟩

def insertAll? (index : ForeignKeyIndex) (schema : String)
    (relations : List Relation) : Option ForeignKeyIndex :=
  relations.foldlM (insert? schema) index

def get (index : ForeignKeyIndex) (schema table : String) : List Relation :=
  (index.tables.get? ⟨schema, table⟩).getD []

def relationCount (index : ForeignKeyIndex) : Nat :=
  index.tables.entries.foldr (fun e count => e.2.length + count) 0

end ForeignKeyIndex

end SchemaScope
