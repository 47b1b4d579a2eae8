import Std.Data.String.ToInt
import SchemaScope.Proofs.ForeignKey.Grouping
import SchemaScope.Proofs.Sqlite.Keys
import SchemaScope.Sqlite.Repository

/-!
The foreign keys that are reported for an SQLite schema. They are told by what
the database lists for each table in whatever order: one relation for each key
all of whose columns find a partner, in the order of tables and then of keys,
and nothing for any other key.
-/

namespace SchemaScope.Sqlite

/-- What a database says about the tables of a schema and their keys. -/
structure Description where
  tables : List String
  foreignKeys : (table : String) → List ForeignKeyInfo
  columns : (table : String) → List TableInfo

namespace Description

variable (d : Description)

/-- The primary key of a table, in its own order. -/
def primaryKey (table : String) : List String :=
  (((d.columns table).filter (0 < ·.keyPlace)).mergeSort
    fun a b => a.keyPlace ≤ b.keyPlace).map TableInfo.name

/-- The partner of a column of a key: the one that it names, or else the
column of the other table's primary key at the same place. -/
def target? (info : ForeignKeyInfo) : Option String :=
  match info.referencedColumn with
  | some name => some name
  | none =>
      if 0 ≤ info.sequence then
        (d.primaryKey info.referencedTable)[info.sequence.toNat]?
      else none

/-- All columns of a key of a table find a partner. -/
def Resolves (table : String) (id : Int) : Prop :=
  ∀ info ∈ d.foreignKeys table, info.id = id → (d.target? info).isSome

instance (table : String) (id : Int) : Decidable (d.Resolves table id) :=
  inferInstanceAs (Decidable (∀ info ∈ d.foreignKeys table, _ → _))

/-- The columns of a key of a table, in the order of the key. -/
def key (table : String) (id : Int) : List ForeignKeyInfo :=
  ForeignKeyInfo.ofKey (d.foreignKeys table) id

/-- A pair leads from a column of a key to its partner. -/
def Pairs (schema table : String) (info : ForeignKeyInfo) (pair : ColumnPair) :
    Prop :=
  pair.column = ⟨schema, table, info.column⟩ ∧
    ∃ target, d.target? info = some target ∧
      pair.referenced = ⟨schema, info.referencedTable, target⟩

/-- These are the relations of the keys that resolve, in the order of tables
and then of keys, each with a pair for every column of the key in its
order. -/
def Reported (schema : String) (relations : List Relation) : Prop :=
  ∃ ids : String → List Int,
    (∀ table, (ids table).Pairwise (· < ·) ∧ ∀ id, id ∈ ids table ↔
      (∃ info ∈ d.foreignKeys table, info.id = id) ∧ d.Resolves table id) ∧
    List.Forall₂
      (fun (key : String × Int) relation =>
        List.Forall₂ (d.Pairs schema key.1) (d.key key.1 key.2) relation.pairs)
      (d.tables.flatMap fun table => (ids table).map (table, ·)) relations

/-- The row of a column of a key that has a partner. -/
def row? (table : String) (info : ForeignKeyInfo) : Option ForeignKeyRow :=
  (d.target? info).map (info.row table)

/-- The rows of a key of a table, as far as its columns have partners. -/
def rows (key : String × Int) : List ForeignKeyRow :=
  (d.key key.1 key.2).filterMap (d.row? key.1)

/-- The keys of a table that resolve, in ascending order. -/
def resolvedIds (table : String) : List Int :=
  (ForeignKeyInfo.ids (d.foreignKeys table)).filter (d.Resolves table ·)

/-- The keys of all tables that resolve. -/
def resolvedKeys : List (String × Int) :=
  d.tables.flatMap fun table => (d.resolvedIds table).map (table, ·)

variable {d}

theorem resolves_iff {table : String} {id : Int} :
    d.Resolves table id ↔ ∀ info ∈ d.key table id, (d.target? info).isSome := by
  simp only [Resolves, key, ForeignKeyInfo.mem_ofKey, and_imp]

theorem mem_rows {key : String × Int} {row : ForeignKeyRow}
    (hrow : row ∈ d.rows key) :
    row.table = key.1 ∧ row.constraint = toString key.2 := by
  obtain ⟨info, hinfo, heq⟩ := List.mem_filterMap.1 hrow
  obtain ⟨target, _, rfl⟩ := Option.map_eq_some_iff.1 heq
  obtain ⟨_, hid⟩ := ForeignKeyInfo.mem_ofKey.1 hinfo
  exact ⟨rfl, congrArg toString hid⟩

theorem resolvedIds_pairwise (table : String) :
    (d.resolvedIds table).Pairwise (· < ·) :=
  (ForeignKeyInfo.ids_pairwise (d.foreignKeys table)).filter _

theorem mem_resolvedIds {table : String} {id : Int} :
    id ∈ d.resolvedIds table ↔
      (∃ info ∈ d.foreignKeys table, info.id = id) ∧ d.Resolves table id := by
  simp [resolvedIds]

theorem mem_resolvedKeys {key : String × Int} :
    key ∈ d.resolvedKeys ↔ key.1 ∈ d.tables ∧ key.2 ∈ d.resolvedIds key.1 := by
  obtain ⟨table, id⟩ := key
  simp [resolvedKeys]

/-- The pairs of a key that resolves are those of its columns. -/
theorem forall₂_pairs {schema table : String} {infos : List ForeignKeyInfo}
    (h : ∀ info ∈ infos, (d.target? info).isSome) :
    List.Forall₂ (d.Pairs schema table) infos
      ((infos.filterMap (d.row? table)).map (·.pair schema)) := by
  induction infos with
  | nil => exact .nil
  | cons info rest ih =>
      obtain ⟨target, htarget⟩ :=
        Option.isSome_iff_exists.1 (h info List.mem_cons_self)
      rw [List.filterMap_cons_some (b := info.row table target)
        (by simp [row?, htarget])]
      exact .cons ⟨rfl, target, htarget, rfl⟩
        (ih fun info hinfo => h info (List.mem_cons_of_mem _ hinfo))

theorem reported_resolvedKeys (schema : String) :
    d.Reported schema
      (d.resolvedKeys.map fun key => Relation.ofRun schema (d.rows key)) := by
  refine ⟨d.resolvedIds, fun table =>
    ⟨resolvedIds_pairwise table, fun id => mem_resolvedIds⟩, ?_⟩
  change List.Forall₂ _ d.resolvedKeys _
  rw [List.forall₂_map_right_iff]
  refine List.forall₂_same.2 ?_
  intro key hkey
  obtain ⟨_, hresolves⟩ := mem_resolvedIds.1 (mem_resolvedKeys.1 hkey).2
  exact forall₂_pairs (resolves_iff.1 hresolves)

theorem rows_ne_nil {key : String × Int} (hkey : key ∈ d.resolvedKeys) :
    d.rows key ≠ [] := by
  obtain ⟨⟨info, hinfo, hid⟩, hresolves⟩ :=
    mem_resolvedIds.1 (mem_resolvedKeys.1 hkey).2
  obtain ⟨target, htarget⟩ :=
    Option.isSome_iff_exists.1 (hresolves info hinfo hid)
  have hrow : d.row? key.1 info = some (info.row key.1 target) := by
    rw [row?, htarget]
    rfl
  exact List.ne_nil_of_mem (List.mem_filterMap.2
    ⟨info, ForeignKeyInfo.mem_ofKey.2 ⟨hinfo, hid⟩, hrow⟩)

theorem sameKey_rows {key : String × Int} {a b : ForeignKeyRow}
    (ha : a ∈ d.rows key) (hb : b ∈ d.rows key) : a.sameKey b = true := by
  obtain ⟨hatable, haid⟩ := mem_rows ha
  obtain ⟨hbtable, hbid⟩ := mem_rows hb
  simp [ForeignKeyRow.sameKey, hatable, haid, hbtable, hbid]

/-- Rows of different keys do not belong together, be it that the keys are
those of different tables. -/
theorem not_sameKey_rows {key key' : String × Int} (hkey : key ≠ key')
    {a b : ForeignKeyRow} (ha : a ∈ d.rows key) (hb : b ∈ d.rows key') :
    a.sameKey b = false := by
  obtain ⟨hatable, haid⟩ := mem_rows ha
  obtain ⟨hbtable, hbid⟩ := mem_rows hb
  rw [Bool.eq_false_iff]
  intro hsame
  simp only [ForeignKeyRow.sameKey, haid, hbid, hatable, hbtable,
    Bool.and_eq_true, decide_eq_true_eq] at hsame
  exact hkey (Prod.ext hsame.2 (Int.repr_inj.1 hsame.1))

theorem resolvedKeys_nodup (hnodup : d.tables.Nodup) :
    d.resolvedKeys.Nodup := by
  refine List.nodup_flatMap.2 ⟨?_, ?_⟩
  · intro table _
    refine List.Nodup.map (fun i j h => (Prod.mk.inj h).2) ?_
    exact (resolvedIds_pairwise table).imp Int.ne_of_lt
  · refine hnodup.imp ?_
    intro table table' hne key hkey hkey'
    obtain ⟨_, _, rfl⟩ := List.mem_map.1 hkey
    obtain ⟨_, _, heq⟩ := List.mem_map.1 hkey'
    exact hne (Prod.mk.inj heq).1.symm

/-- The rows of all keys that resolve are grouped key by key. -/
theorem ofRows_rows (schema : String) (hnodup : d.tables.Nodup) :
    Relation.ofRows schema (d.resolvedKeys.flatMap d.rows) =
      d.resolvedKeys.map fun key => Relation.ofRun schema (d.rows key) := by
  rw [Relation.ofRows_eq, Sorting.splitBy_flatMap (fun _ => rows_ne_nil)
    (fun _ _ a ha b hb => sameKey_rows ha hb), List.map_map]
  · rfl
  · refine (resolvedKeys_nodup hnodup).imp ?_
    intro key key' hkey a ha b hb
    exact not_sameKey_rows hkey ha hb

end Description

namespace Catalog

/-- A catalog refuses no query about a schema, and answers as described. -/
structure Describes (c : Catalog) (schema : String) (d : Description) :
    Prop where
  tables : c.tables schema = .ok d.tables
  foreignKeys : ∀ table,
    c.foreignKeyList schema table = .ok (d.foreignKeys table)
  columns : ∀ table, c.tableInfo schema table = .ok (d.columns table)

variable {c : Catalog} {schema : String} {d : Description}

theorem Describes.referencedColumn?_eq (hc : c.Describes schema d)
    (info : ForeignKeyInfo) :
    c.referencedColumn? schema info = .ok (d.target? info) := by
  unfold referencedColumn? Description.target?
  cases info.referencedColumn with
  | some name => rfl
  | none =>
      rw [primaryKey, hc.columns]
      by_cases hplace : 0 ≤ info.sequence
      · have hnot : ¬ info.sequence < 0 := by omega
        simp only [Except.map, itemAt?, if_pos hplace, if_neg hnot]
        rfl
      · have hneg : info.sequence < 0 := by omega
        simp only [Except.map, itemAt?, if_neg hplace, if_pos hneg]

theorem Describes.keyRows_eq (hc : c.Describes schema d) (table : String)
    (before : List ForeignKeyRow) (infos : List ForeignKeyInfo) :
    c.keyRows schema table before infos =
      .ok (if ∀ info ∈ infos, (d.target? info).isSome then
        before.reverse ++ infos.filterMap (d.row? table) else []) := by
  induction infos generalizing before with
  | nil => simp [keyRows]
  | cons info rest ih =>
      rw [keyRows, hc.referencedColumn?_eq]
      cases htarget : d.target? info with
      | none =>
          rw [if_neg (by simp [htarget])]
          rfl
      | some target =>
          change c.keyRows schema table
            (info.row table target :: before) rest = _
          rw [ih]
          simp [htarget, Description.row?]

theorem Describes.mapM_keyRows (hc : c.Describes schema d) (table : String)
    (ids : List Int) :
    (ids.map (ForeignKeyInfo.ofKey (d.foreignKeys table))).mapM
        (c.keyRows schema table []) =
      .ok (ids.map fun id =>
        if d.Resolves table id then d.rows (table, id) else []) := by
  induction ids with
  | nil => rfl
  | cons id rest ih =>
      rw [List.map_cons, List.mapM_cons, ih, hc.keyRows_eq]
      simp only [Description.resolves_iff]
      rfl

/-- A table has the rows of those of its keys that resolve. -/
theorem Describes.foreignKeyRows_eq (hc : c.Describes schema d)
    (table : String) :
    c.foreignKeyRows schema table =
      .ok ((d.resolvedIds table).flatMap fun id => d.rows (table, id)) := by
  rw [foreignKeyRows_eq_byKey, hc.foreignKeys]
  change ((ForeignKeyInfo.byKey (d.foreignKeys table)).mapM
    (c.keyRows schema table []) >>= fun groups => pure groups.flatten) = _
  rw [ForeignKeyInfo.byKey_eq, hc.mapM_keyRows, Description.resolvedIds]
  refine congrArg Except.ok ?_
  induction ForeignKeyInfo.ids (d.foreignKeys table) with
  | nil => rfl
  | cons id rest ih =>
      by_cases hid : d.Resolves table id
      · simp [hid, ih]
      · simp [hid, ih]

theorem Describes.cursorItems_eq (hc : c.Describes schema d) :
    (d.tables.flatMap fun table =>
        cursorItems (c.foreignKeyRows schema table)) =
      (d.resolvedKeys.flatMap d.rows).map .ok := by
  simp only [hc.foreignKeyRows_eq, cursorItems, Description.resolvedKeys,
    List.flatMap_assoc, List.map_flatMap, List.flatMap_map]

/-- The foreign keys of a schema are those that resolve, and no others. -/
theorem answer_schemaForeignKeys (hc : c.Describes schema d)
    (hnodup : d.tables.Nodup) :
    ∃ relations, c.repository.answer (.schemaForeignKeys schema) =
        .ok relations ∧ d.Reported schema relations := by
  refine ⟨d.resolvedKeys.map fun key => Relation.ofRun schema (d.rows key),
    ?_, Description.reported_resolvedKeys schema⟩
  change refused (c.foreignKeys schema) = _
  rw [foreignKeys, hc.tables]
  change refused (Relation.ofCursor schema (d.tables.flatMap fun table =>
    cursorItems (c.foreignKeyRows schema table))).1 = _
  rw [hc.cursorItems_eq, Relation.ofCursor_ok,
    Description.ofRows_rows schema hnodup]
  rfl

namespace ForeignKeysWitness

/-- Orders point at the composite key of products, whose columns are listed
in the wrong order, and at a table without a primary key. Another table has a
key with the same number. -/
def shop : Description where
  tables := ["orders", "returns"]
  foreignKeys
    | "orders" =>
        [⟨1, 0, "notes", "note", none⟩, ⟨2, 1, "products", "size", none⟩,
          ⟨0, 0, "customers", "customer", some "id"⟩,
          ⟨2, 0, "products", "name", none⟩,
          ⟨1, 1, "notes", "line", some "line"⟩]
    | "returns" => [⟨0, 0, "orders", "order", some "id"⟩]
    | _ => []
  columns
    | "products" =>
        [⟨"size", "INTEGER", true, none, 2⟩, ⟨"price", "REAL", false, none, 0⟩,
          ⟨"name", "TEXT", true, none, 1⟩]
    | "notes" => [⟨"line", "TEXT", false, none, 0⟩]
    | _ => []

/-- A catalog that is described so in every schema. -/
def catalog : Catalog :=
  { Catalog.new with
    master := fun _ => .ok [⟨"table", "orders"⟩, ⟨"index", "by_customer"⟩,
      ⟨"table", "returns"⟩]
    foreignKeyList := fun _ table => .ok (shop.foreignKeys table)
    tableInfo := fun _ table => .ok (shop.columns table) }

/-- A table is one of the user's when its name begins otherwise than those of
the database's own tables. -/
theorem isTable_of_toList {name : String} {c : Char} {rest : List Char}
    (hname : name.toList = c :: rest) (hc : 's' ≠ c.toLower) :
    MasterRow.isTable ⟨"table", name⟩ = true := by
  have hpattern : internalPattern = 's' :: "qlite_%".toList := by decide
  simp [MasterRow.isTable, hname, hpattern, Text.like, hc]

theorem describes_catalog : catalog.Describes "main" shop := by
  have horders : MasterRow.isTable ⟨"table", "orders"⟩ = true :=
    isTable_of_toList (c := 'o') rfl (by decide)
  have hreturns : MasterRow.isTable ⟨"table", "returns"⟩ = true :=
    isTable_of_toList (c := 'r') rfl (by decide)
  have hindex : MasterRow.isTable ⟨"index", "by_customer"⟩ = false := by decide
  refine ⟨?_, fun _ => rfl, fun _ => rfl⟩
  simp only [tables, catalog, Except.map, List.filter, horders, hreturns,
    hindex]
  rfl

theorem answer_schemaForeignKeys_shop :
    catalog.Describes "main" shop ∧ shop.tables.Nodup ∧
      ∃ relations, catalog.repository.answer (.schemaForeignKeys "main") =
        .ok relations ∧ shop.Reported "main" relations :=
  have hnodup : shop.tables.Nodup := by decide
  ⟨describes_catalog, hnodup, answer_schemaForeignKeys describes_catalog hnodup⟩

end ForeignKeysWitness

end Catalog

end SchemaScope.Sqlite
