import Mathlib.Data.Finset.Card
import SchemaScope.Index.Columns
import SchemaScope.Proofs.OrderedMap

/-!
The column index files every column under its table and nothing else. Main
statement: a table has in the index the columns that were given for it, in that
order, and is not in the index if there were none; how the columns of different
tables follow each other does not count.
-/

namespace SchemaScope.ColumnIndex

/-- Those of several columns that belong to a table. -/
def columnsFor (n : TableName) (columns : List Column) : List Column :=
  columns.filter fun column => TableName.ofColumn column.id = n

theorem tables_insertAll (index : ColumnIndex) (columns : List Column) :
    (index.insertAll columns).tables =
      columns.foldl (fun m column => m.update (TableName.ofColumn column.id)
        fun known => known.getD [] ++ [column]) index.tables := by
  induction columns generalizing index with
  | nil => rfl
  | cons column rest ih => exact ih (index.insert column)

theorem foldl_add (columns : List Column) (known : Option (List Column)) :
    columns.foldl (fun known column => some (known.getD [] ++ [column])) known =
      if columns = [] then known else some (known.getD [] ++ columns) := by
  induction columns generalizing known with
  | nil => rfl
  | cons column rest ih =>
      rw [List.foldl_cons, ih]
      cases rest with
      | nil => rfl
      | cons => simp

theorem get?_insertAll (index : ColumnIndex) (columns : List Column)
    (n : TableName) :
    (index.insertAll columns).tables.get? n =
      if columnsFor n columns = [] then index.tables.get? n
      else some ((index.tables.get? n).getD [] ++ columnsFor n columns) := by
  rw [tables_insertAll, OrderedMap.get?_foldl_update]
  exact foldl_add (columnsFor n columns) (index.tables.get? n)

/-- A table has the columns that were given for it, if there were any. -/
theorem get?_ofColumns (columns : List Column) (n : TableName) :
    (ofColumns columns).tables.get? n =
      if columnsFor n columns = [] then none
      else some (columnsFor n columns) :=
  get?_insertAll empty columns n

/-- What an index answers about the columns that have been given to it. -/
structure Groups (index : ColumnIndex) (given : List Column) : Prop where
  getD_eq : ∀ schema table,
    (index.get? schema table).getD [] = columnsFor ⟨schema, table⟩ given
  get?_eq_none_iff : ∀ schema table,
    index.get? schema table = none ↔ columnsFor ⟨schema, table⟩ given = []
  tableCount_eq : index.tableCount =
    (given.map fun column => TableName.ofColumn column.id).toFinset.card
  isEmpty_iff : index.isEmpty = true ↔ given = []

/-- The tables of an index are those of the columns in it. -/
theorem mem_keys_ofColumns_iff {columns : List Column} {n : TableName} :
    n ∈ (ofColumns columns).tables.keys ↔
      n ∈ columns.map fun column => TableName.ofColumn column.id := by
  rw [← OrderedMap.isSome_get?_iff, get?_ofColumns]
  by_cases hnone : columnsFor n columns = []
  · rw [if_pos hnone]
    simpa [columnsFor] using hnone
  · rw [if_neg hnone]
    simpa [columnsFor] using hnone

theorem tableCount_ofColumns (columns : List Column) :
    (ofColumns columns).tableCount =
      (columns.map fun column =>
        TableName.ofColumn column.id).toFinset.card := by
  have hkeys : (ofColumns columns).tables.keys.toFinset =
      (columns.map fun column => TableName.ofColumn column.id).toFinset := by
    ext n
    rw [List.mem_toFinset, List.mem_toFinset, mem_keys_ofColumns_iff]
  have hdistinct : (ofColumns columns).tables.keys.Nodup :=
    (ofColumns columns).tables.distinct
  rw [← hkeys, List.toFinset_card_of_nodup hdistinct]
  exact (List.length_map _).symm

theorem isEmpty_ofColumns_iff {columns : List Column} :
    (ofColumns columns).isEmpty = true ↔ columns = [] := by
  have hcount : (ofColumns columns).isEmpty = true ↔
      (ofColumns columns).tableCount = 0 :=
    List.isEmpty_iff_length_eq_zero
  rw [hcount, tableCount_ofColumns, Finset.card_eq_zero,
    List.toFinset_eq_empty_iff, List.map_eq_nil_iff]

theorem groups_ofColumns (columns : List Column) :
    (ofColumns columns).Groups columns := by
  constructor
  case getD_eq =>
    intro schema table
    rw [get?, get?_ofColumns]
    by_cases hnone : columnsFor ⟨schema, table⟩ columns = []
    · rw [if_pos hnone, hnone, Option.getD_none]
    · rw [if_neg hnone, Option.getD_some]
  case get?_eq_none_iff =>
    intro schema table
    rw [get?, get?_ofColumns, ite_eq_left_iff]
    simp
  case tableCount_eq => exact tableCount_ofColumns columns
  case isEmpty_iff => exact isEmpty_ofColumns_iff

/-- Two indexes answer alike if and only if each table has been given the same
columns in the same order. -/
theorem get?_ofColumns_alike_iff {columns others : List Column} :
    (∀ schema table,
        (ofColumns columns).get? schema table =
          (ofColumns others).get? schema table) ↔
      ∀ n, columnsFor n columns = columnsFor n others := by
  constructor
  · intro h n
    rw [← (groups_ofColumns columns).getD_eq, h,
      (groups_ofColumns others).getD_eq]
  · intro h schema table
    rw [get?, get?_ofColumns, get?, get?_ofColumns, h]

theorem ofColumns_append (columns later : List Column) :
    ofColumns (columns ++ later) = (ofColumns columns).insertAll later :=
  List.foldl_append

/-- An index groups by table the columns that it was made of and those that
have been added since. It answers like the index of other columns if and only
if these are the same, in the same order, table by table. -/
theorem insertAll_groups (columns later others : List Column) :
    ((ofColumns columns).insertAll later).Groups (columns ++ later) ∧
      ((∀ schema table,
          ((ofColumns columns).insertAll later).get? schema table =
            (ofColumns others).get? schema table) ↔
        ∀ n, columnsFor n (columns ++ later) = columnsFor n others) := by
  rw [← ofColumns_append]
  exact ⟨groups_ofColumns _, get?_ofColumns_alike_iff⟩

end SchemaScope.ColumnIndex
