import SchemaScope.ForeignKey.Grouping
import SchemaScope.Sqlite.Columns

/-!
The foreign keys of SQLite tables. A key that names no columns of the other
table points at the columns of its primary key, one after the other. A key with
a column that finds no partner there is left out.
-/

namespace SchemaScope.Sqlite

namespace ForeignKeyInfo

/-- Columns of keys in order: first by key, then by place in the key. -/
def atMost (a b : ForeignKeyInfo) : Bool :=
  a.id < b.id || (a.id = b.id && a.sequence ≤ b.sequence)

/-- A column of a key as a row, with the column it points at. -/
def row (table : String) (info : ForeignKeyInfo) (referenced : String) :
    ForeignKeyRow where
  constraint := toString info.id
  table
  column := info.column
  referencedTable := info.referencedTable
  referencedColumn := referenced

end ForeignKeyInfo

/-- What is known on the way through the columns of a table's keys: the rows
so far, the key that the last column is of, the number of rows in front of that
key, and the key that was left out last. -/
structure KeyScan where
  rows : List ForeignKeyRow := []
  current : Option Int := none
  start : Nat := 0
  skipped : Option Int := none

namespace KeyScan

/-- With the first column of another key its rows begin. -/
def enter (scan : KeyScan) (id : Int) : KeyScan :=
  if scan.current = some id then scan
  else { scan with current := some id, start := scan.rows.length }

def push (scan : KeyScan) (row : ForeignKeyRow) : KeyScan :=
  { scan with rows := scan.rows ++ [row] }

/-- The rows that a key has so far are taken back. -/
def leaveOut (scan : KeyScan) (id : Int) : KeyScan :=
  { scan with rows := scan.rows.take scan.start, skipped := some id }

end KeyScan

namespace Catalog

/-- The primary key of a table, in its own order. -/
def primaryKey (c : Catalog) (schema table : String) :
    Except String (List String) :=
  (c.tableInfo schema table).map fun infos =>
    ((infos.filter TableInfo.isKey).mergeSort fun a b =>
      a.keyPlace ≤ b.keyPlace).map TableInfo.name

/-- The item of a list at a place that may be negative. -/
def itemAt? (items : List String) (place : Int) : Option String :=
  if place < 0 then none else items[place.toNat]?

/-- The column that a column of a key points at, if there is one. -/
def referencedColumn? (c : Catalog) (schema : String) (info : ForeignKeyInfo) :
    Except String (Option String) :=
  match info.referencedColumn with
  | some name => .ok (some name)
  | none =>
    (c.primaryKey schema info.referencedTable).map (itemAt? · info.sequence)

/-- The next column of the keys of a table is a row of its own. One that
points nowhere leaves out its whole key, whose other columns are not looked at
any more. -/
def scanColumn (c : Catalog) (schema table : String) (scan : KeyScan)
    (info : ForeignKeyInfo) : Except String KeyScan :=
  let scan := scan.enter info.id
  if scan.skipped = some info.id then .ok scan
  else (c.referencedColumn? schema info).map fun
    | some referenced => scan.push (info.row table referenced)
    | none => scan.leaveOut info.id

/-- The rows of all keys of a table. -/
def foreignKeyRows (c : Catalog) (schema table : String) :
    Except String (List ForeignKeyRow) := do
  let infos ← c.foreignKeyList schema table
  let scan ← (infos.mergeSort ForeignKeyInfo.atMost).foldlM
    (c.scanColumn schema table) {}
  return scan.rows

/-- The items of a cursor over rows that may have failed. -/
def cursorItems :
    Except String (List ForeignKeyRow) → List (Except String ForeignKeyRow)
  | .ok rows => rows.map .ok
  | .error e => [.error e]

def foreignKeys (c : Catalog) (schema : String) :
    Except String (List Relation) := do
  let tables ← c.tables schema
  (Relation.ofCursor schema (tables.flatMap fun table =>
    cursorItems (c.foreignKeyRows schema table))).1

end Catalog

end SchemaScope.Sqlite
