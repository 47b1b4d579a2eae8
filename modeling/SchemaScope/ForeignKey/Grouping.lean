import SchemaScope.ForeignKey

/-!
Grouping the rows of foreign keys into relations. Rows that follow each other
and agree on constraint and table form one relation; a constraint that comes
back after another one begins a new relation.
-/

namespace SchemaScope

/-- How far the grouping of rows has come: the relations that are complete, the
last one first, and the last row with the relation it belongs to. -/
structure Grouping where
  complete : List Relation := []
  current : Option (ForeignKeyRow × Relation) := none

namespace Grouping

/-- Take the next row. -/
def add (schema : String) (g : Grouping) (row : ForeignKeyRow) : Grouping :=
  match g.current with
  | some (previous, relation) =>
    if previous.sameKey row then
      { g with current := some (row, relation.push (row.pair schema)) }
    else
      { complete := relation :: g.complete
        current := some (row, .single (row.pair schema)) }
  | none => { g with current := some (row, .single (row.pair schema)) }

/-- The relations of all rows taken so far. -/
def relations (g : Grouping) : List Relation :=
  match g.current with
  | some (_, relation) => (relation :: g.complete).reverse
  | none => g.complete.reverse

end Grouping

namespace Relation

def ofRows (schema : String) (rows : List ForeignKeyRow) : List Relation :=
  (rows.foldl (Grouping.add schema) {}).relations

/-- Take items from a cursor until it ends or fails. The second part of the
answer is the number of items taken. -/
def readCursor {ε : Type} (schema : String) :
    Grouping → List (Except ε ForeignKeyRow) → Except ε (List Relation) × Nat
  | g, [] => (.ok g.relations, 0)
  | _, .error e :: _ => (.error e, 1)
  | g, .ok row :: rest =>
    let (result, taken) := readCursor schema (g.add schema row) rest
    (result, taken + 1)

/-- The relations of the rows of a cursor, or its first error, and the number of
items taken. -/
def ofCursor {ε : Type} (schema : String)
    (items : List (Except ε ForeignKeyRow)) : Except ε (List Relation) × Nat :=
  readCursor schema {} items

end Relation

end SchemaScope
