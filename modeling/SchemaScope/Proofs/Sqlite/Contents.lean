import Mathlib.Data.List.Nodup
import SchemaScope.Proofs.Fallible
import SchemaScope.Proofs.Index.Columns
import SchemaScope.Proofs.Topology.Merging
import SchemaScope.Proofs.Topology.Questions
import SchemaScope.Sqlite.Repository

/-!
The contents of an SQLite database as they are reported. All schemas but the one
for temporary tables are listed, and with each of them its tables in the order
of their creation; the columns of all tables come in one list. Main statement:
the index of that list has for every table the columns that the database
describes, and no other table.
-/

namespace SchemaScope.Sqlite

/-- What a database says about its schemas, its tables and their columns. -/
structure Contents where
  /-- The attached databases: name and file. -/
  databases : List (String × Option String)
  /-- The rows of the table that lists what a schema holds, in the order of
  their creation. -/
  master : (schema : String) → List MasterRow
  tableInfo : (schema table : String) → List TableInfo

namespace Contents

variable (d : Contents)

/-- All schemas but the one for temporary tables. -/
def schemas : List String :=
  (d.databases.map Prod.fst).filter (· ≠ Catalog.temporary)

/-- The tables and views of the user. -/
def tables (schema : String) : List String :=
  ((d.master schema).filter Catalog.MasterRow.isTable).map MasterRow.name

/-- The tables of all schemas, schema by schema. -/
def allTables : List TableName :=
  d.schemas.flatMap fun schema => (d.tables schema).map (⟨schema, ·⟩)

/-- No name is given to two schemas or to two tables of a schema. -/
structure Distinct : Prop where
  schemas : (d.databases.map Prod.fst).Nodup
  tables : ∀ schema ∈ d.schemas, (d.tables schema).Nodup

/-- The columns of a table, as they are reported. -/
def columns (n : TableName) : List Column :=
  (d.tableInfo n.schema n.table).map
    (TableInfo.column n.schema n.table (d.tableInfo n.schema n.table))

variable {d}

@[simp] theorem mem_allTables {n : TableName} :
    n ∈ d.allTables ↔ n.schema ∈ d.schemas ∧ n.table ∈ d.tables n.schema := by
  obtain ⟨schema, table⟩ := n
  simp [allTables]

theorem temporary_notMem_schemas (d : Contents) :
    Catalog.temporary ∉ d.schemas := by
  simp [schemas]

theorem Distinct.schemas_nodup (hd : d.Distinct) : d.schemas.Nodup :=
  hd.schemas.filter _

theorem Distinct.allTables_nodup (hd : d.Distinct) : d.allTables.Nodup :=
  TableName.nodup_flatMap hd.schemas_nodup hd.tables

theorem ofColumn_of_mem {n : TableName} {column : Column}
    (hcolumn : column ∈ d.columns n) : TableName.ofColumn column.id = n := by
  obtain ⟨info, _, rfl⟩ := List.mem_map.1 hcolumn
  rfl

/-- If all items but one contribute nothing, what they contribute is what that
one does. -/
theorem flatMap_of_nodup {α β : Type} [DecidableEq α] {items : List α}
    {f : α → List β} {item : α} (hitems : items.Nodup)
    (hf : ∀ other ∈ items, other ≠ item → f other = []) :
    items.flatMap f = if item ∈ items then f item else [] := by
  induction items with
  | nil => rfl
  | cons head rest ih =>
      obtain ⟨hnot, hrest⟩ := List.nodup_cons.1 hitems
      obtain ⟨hhead, hothers⟩ := List.forall_mem_cons.1 hf
      rw [List.flatMap_cons, ih hrest hothers]
      by_cases heq : head = item
      · subst heq
        simp [hnot]
      · simp [hhead heq, Ne.symm heq]

/-- Of the columns of all tables those of one table are its own. -/
theorem Distinct.columnsFor_flatMap (hd : d.Distinct) (n : TableName) :
    ColumnIndex.columnsFor n (d.allTables.flatMap d.columns) =
      if n ∈ d.allTables then d.columns n else [] := by
  rw [ColumnIndex.columnsFor, List.filter_flatMap,
    flatMap_of_nodup hd.allTables_nodup]
  · congr 1
    refine List.filter_eq_self.2 fun column hcolumn => ?_
    exact decide_eq_true (ofColumn_of_mem hcolumn)
  · intro other _ hne
    refine List.filter_eq_nil_iff.2 fun column hcolumn => ?_
    rw [ofColumn_of_mem hcolumn]
    simpa using hne

/-- The index of all columns has the tables that have columns, each with its
own. -/
theorem Distinct.get?_ofColumns (hd : d.Distinct) (n : TableName) :
    (ColumnIndex.ofColumns (d.allTables.flatMap d.columns)).tables.get? n =
      if n ∈ d.allTables ∧ d.tableInfo n.schema n.table ≠ [] then
        some (d.columns n) else none := by
  rw [ColumnIndex.get?_ofColumns, hd.columnsFor_flatMap]
  by_cases hn : n ∈ d.allTables
  · by_cases hnone : d.tableInfo n.schema n.table = []
    · simp [columns, hnone]
    · simp [columns, hn, hnone]
  · simp [hn]

section

variable (currentDatabase : Option String) (databases : List String)
  (currentSchema : String)

/-- The topology of a database that lists its schemas and then all of them
with their tables. -/
def topology : Topology :=
  .ofAnswers currentDatabase databases currentSchema d.schemas
    (d.schemas.map fun schema => (schema, d.tables schema))

theorem schemas_topology (hschemas : d.schemas.Nodup) :
    (d.topology currentDatabase databases currentSchema).schemas =
      d.schemas := by
  have hnames : (d.schemas.map fun schema => (schema, d.tables schema)).map
      Prod.fst = d.schemas := by
    simp [Function.comp_def]
  have hagain : d.schemas.removeAll d.schemas = [] := by
    simp [List.removeAll, List.filter_eq_nil_iff]
  rw [topology, Topology.schemas_ofAnswers, hnames, List.eraseDups_append,
    OrderedMap.eraseDups_of_nodup hschemas, hagain]
  exact List.append_nil d.schemas

theorem Distinct.tablesOf_topology (hd : d.Distinct) {schema : String}
    (hschema : schema ∈ d.schemas) :
    (d.topology currentDatabase databases currentSchema).tablesOf schema =
      d.tables schema := by
  have honly : ((d.schemas.map fun schema => (schema, d.tables schema)).filter
      (·.1 = schema)).flatMap Prod.snd = d.tables schema := by
    have hothers : ∀ other ∈ d.schemas.filter (· = schema),
        other ≠ schema → d.tables other = [] := by
      intro other hother hne
      exact absurd (by simpa using (List.mem_filter.1 hother).2) hne
    rw [List.filter_map, List.flatMap_map]
    refine (flatMap_of_nodup (hd.schemas_nodup.filter _) hothers).trans ?_
    simp [hschema]
  rw [topology, Topology.tablesOf_ofAnswers, honly,
    OrderedMap.eraseDups_of_nodup (hd.tables schema hschema)]

theorem Distinct.allTables_topology (hd : d.Distinct) :
    (d.topology currentDatabase databases currentSchema).allTables =
      d.allTables := by
  rw [Topology.allTables_eq, schemas_topology _ _ _ hd.schemas_nodup, allTables]
  refine List.flatMap_congr fun schema hschema => ?_
  rw [hd.tablesOf_topology _ _ _ hschema]

end

end Contents

/-- A column is what one of the rows about its table says. -/
structure TableInfo.Describes (schema table : String) (infos : List TableInfo)
    (info : TableInfo) (column : Column) : Prop where
  id : column.id = ⟨schema, table, info.name⟩
  dataType : column.dataType = info.dataType
  nullable : column.nullable = "NO" ↔ info.notNull = true
  key : column.key = "PRI" ↔ 0 < info.keyPlace
  defaultValue : column.defaultValue = info.defaultValue
  extra : column.extra = "auto_increment" ↔
    infos.filter (0 < ·.keyPlace) = [info] ∧
      Text.sameIgnoringCase info.dataType "INTEGER" = true

namespace TableInfo

theorem numbersRows_iff {infos : List TableInfo} {info : TableInfo}
    (hinfo : info ∈ infos) :
    numbersRows infos info = true ↔
      infos.filter (0 < ·.keyPlace) = [info] ∧
        Text.sameIgnoringCase info.dataType "INTEGER" = true := by
  have honly : (info.isKey = true ∧ (infos.filter isKey).length = 1) ↔
      infos.filter isKey = [info] := by
    constructor
    · rintro ⟨hkey, hlength⟩
      obtain ⟨only, honly⟩ := List.length_eq_one_iff.1 hlength
      have hmem : info ∈ infos.filter isKey :=
        List.mem_filter.2 ⟨hinfo, hkey⟩
      rw [honly, List.mem_singleton] at hmem
      rw [honly, hmem]
    · intro hfilter
      have hmem : info ∈ infos.filter isKey := by simp [hfilter]
      exact ⟨(List.mem_filter.1 hmem).2, by simp [hfilter]⟩
  change _ ↔ infos.filter isKey = [info] ∧ _
  rw [← honly]
  simp [numbersRows]

theorem describes_column (schema table : String) {infos : List TableInfo}
    {info : TableInfo} (hinfo : info ∈ infos) :
    Describes schema table infos info (column schema table infos info) := by
  refine ⟨rfl, rfl, ?_, ?_, rfl, ?_⟩
  · cases h : info.notNull
    · simp [column, h]
    · simp [column, h]
  · simp [column, isKey]
  · rw [← numbersRows_iff hinfo]
    simp [column]

end TableInfo

theorem Contents.forall₂_columns (d : Contents) (n : TableName) :
    List.Forall₂
      (TableInfo.Describes n.schema n.table (d.tableInfo n.schema n.table))
      (d.tableInfo n.schema n.table) (d.columns n) := by
  refine List.forall₂_map_right_iff.2 (List.forall₂_same.2 ?_)
  intro info hinfo
  exact TableInfo.describes_column n.schema n.table hinfo

namespace Catalog

/-- A catalog refuses no query about its schemas and what they hold. -/
structure Lists (c : Catalog) (d : Contents) : Prop where
  databases : c.databaseList = .ok d.databases
  master : ∀ schema ∈ d.schemas, c.master schema = .ok (d.master schema)

/-- A catalog refuses no query about its contents. -/
structure Holds (c : Catalog) (d : Contents) : Prop where
  databases : c.databaseList = .ok d.databases
  master : ∀ schema ∈ d.schemas, c.master schema = .ok (d.master schema)
  tableInfo : ∀ n ∈ d.allTables,
    c.tableInfo n.schema n.table = .ok (d.tableInfo n.schema n.table)

variable {c : Catalog} {d : Contents}

theorem exists_of_refused_eq_ok {α : Type} {r : Except String α} {a : α}
    (h : refused r = .ok a) : r = .ok a := by
  cases r with
  | error e => cases h
  | ok b =>
      cases h
      rfl

/-- All columns are those of the schemas in turn. -/
theorem columns_eq_mapM {files : List (String × String)}
    (h : c.schemas = .ok files) :
    c.columns =
      ((files.map Prod.fst).mapM c.schemaColumns).map List.flatten := by
  rw [columns, h, List.mapM_map]
  change (files.mapM (c.schemaColumns ∘ Prod.fst) >>= fun columns =>
    pure columns.flatten) = _
  cases files.mapM (c.schemaColumns ∘ Prod.fst) <;> rfl

/-- A database never says that it does not describe all columns at once. -/
theorem run_columns (c : Catalog) (schemas : List String) :
    (ColumnIndex.inquiry schemas).run c.repository.answer =
      refused (c.columns.map ColumnIndex.ofColumns) := by
  change (match refused c.columns with
    | .ok columns => _
    | .error e => _ : Inquiry ColumnIndex).run c.repository.answer = _
  cases c.columns <;> rfl

theorem exists_schemas (h : c.databaseList = .ok d.databases) :
    ∃ files, c.schemas = .ok files ∧ files.map Prod.fst = d.schemas := by
  refine ⟨(d.databases.map fun e => (e.1, e.2.getD "")).filter
    (·.1 ≠ temporary), ?_, ?_⟩
  · rw [Catalog.schemas, h]
    rfl
  · rw [Contents.schemas, List.filter_map, List.filter_map, List.map_map]
    rfl

/-- A catalog that names its tables has refused no query about them. -/
theorem exists_lists {reports : List (String × List String)}
    (h : c.schemaTables = .ok reports) : ∃ d, c.Lists d := by
  obtain ⟨files, hfiles, h⟩ := Fallible.exists_of_bind_eq_ok h
  obtain ⟨named, hnamed, _⟩ := Fallible.exists_of_bind_eq_ok h
  cases hdatabases : c.databaseList with
  | error e =>
      rw [schemas, hdatabases] at hfiles
      cases hfiles
  | ok databases =>
      let d : Contents :=
        ⟨databases, fun schema => (c.master schema).toOption.getD [],
          fun _ _ => []⟩
      refine ⟨d, hdatabases, fun schema hschema => ?_⟩
      obtain ⟨files', hfiles', hnames⟩ := exists_schemas (d := d) hdatabases
      obtain rfl : files = files' := Except.ok.inj (hfiles.symm.trans hfiles')
      rw [← hnames] at hschema
      obtain ⟨file, hfile, rfl⟩ := List.mem_map.1 hschema
      obtain ⟨_, hfile⟩ := Fallible.exists_of_mapM_eq_ok hnamed file hfile
      obtain ⟨tables, htables, _⟩ := Fallible.exists_of_bind_eq_ok hfile
      change c.master file.1 = .ok ((c.master file.1).toOption.getD [])
      cases hmaster : c.master file.1 with
      | ok rows => rfl
      | error e =>
          rw [Catalog.tables, hmaster] at htables
          cases htables

namespace Lists

theorem tables_eq (hc : c.Lists d) {schema : String}
    (hschema : schema ∈ d.schemas) :
    c.tables schema = .ok (d.tables schema) := by
  rw [Catalog.tables, hc.master schema hschema]
  rfl

/-- Every schema is listed once, with its tables. -/
theorem schemaTables_eq (hc : c.Lists d) :
    c.schemaTables =
      .ok (d.schemas.eraseDups.map fun schema =>
        (schema, d.tables schema)) := by
  obtain ⟨files, hfiles, hnames⟩ := exists_schemas hc.databases
  have htables : files.mapM (fun schema => return (schema.1,
      ← c.tables schema.1)) =
      .ok (files.map fun schema => (schema.1, d.tables schema.1)) := by
    refine Fallible.mapM_eq_ok fun schema hschema => ?_
    rw [hc.tables_eq (hnames ▸ List.mem_map_of_mem hschema)]
    rfl
  have hlisted : files.map (fun schema => (schema.1, d.tables schema.1)) =
      d.schemas.map fun schema => (schema, d.tables schema) := by
    rw [← hnames, List.map_map]
    rfl
  rw [Catalog.schemaTables, hfiles]
  change (files.mapM (fun schema => return (schema.1, ← c.tables schema.1)) >>=
    fun tables => pure (OrderedMap.ofList tables).entries) = _
  rw [htables, hlisted]
  exact congrArg Except.ok (OrderedMap.entries_ofList_map d.schemas d.tables)

/-- What is asked to learn the topology is answered with the schemas and with
their tables. -/
theorem run_inquiry (hc : c.Lists d) :
    ∃ name, Topology.inquiry.run c.repository.answer =
      .ok (.ofAnswers (some name) [name] mainSchema d.schemas
        (d.schemas.eraseDups.map fun schema => (schema, d.tables schema))) := by
  obtain ⟨files, hfiles, hnames⟩ := exists_schemas hc.databases
  obtain ⟨name, hname⟩ : ∃ name, c.currentDatabase = .ok name := by
    rw [currentDatabase, hfiles]
    exact ⟨_, rfl⟩
  refine ⟨name, Topology.run_inquiry ?_ ?_ rfl ?_ ?_⟩
  · simp [repository, hname, refused, Except.mapError]
  · simp [repository, hname, refused, Except.mapError, Except.map]
  · simp [repository, hfiles, hnames, refused, Except.mapError, Except.map]
  · simp [repository, hc.schemaTables_eq, refused, Except.mapError]

end Lists

namespace Holds

theorem lists (hc : c.Holds d) : c.Lists d := ⟨hc.databases, hc.master⟩

theorem tableColumns_eq (hc : c.Holds d) {n : TableName}
    (hn : n ∈ d.allTables) :
    c.tableColumns n.schema n.table = .ok (d.columns n) := by
  rw [tableColumns, hc.tableInfo n hn]
  rfl

theorem schemaColumns_eq (hc : c.Holds d) {schema : String}
    (hschema : schema ∈ d.schemas) :
    c.schemaColumns schema =
      .ok ((d.tables schema).flatMap fun table =>
        d.columns ⟨schema, table⟩) := by
  have htables : (d.tables schema).mapM (c.tableColumns schema) =
      .ok ((d.tables schema).map fun table => d.columns ⟨schema, table⟩) := by
    refine Fallible.mapM_eq_ok fun table htable => ?_
    exact hc.tableColumns_eq (n := ⟨schema, table⟩)
      (Contents.mem_allTables.2 ⟨hschema, htable⟩)
  rw [schemaColumns, hc.lists.tables_eq hschema]
  change ((d.tables schema).mapM (c.tableColumns schema) >>= fun columns =>
    pure columns.flatten) = _
  rw [htables]
  rfl

/-- The columns of all tables come in one list, table by table. -/
theorem columns_eq (hc : c.Holds d) :
    c.columns = .ok (d.allTables.flatMap d.columns) := by
  obtain ⟨files, hfiles, hnames⟩ := exists_schemas hc.databases
  have hschemas : d.schemas.mapM c.schemaColumns =
      .ok (d.schemas.map fun schema => (d.tables schema).flatMap fun table =>
        d.columns ⟨schema, table⟩) :=
    Fallible.mapM_eq_ok fun schema hschema => hc.schemaColumns_eq hschema
  rw [columns_eq_mapM hfiles, hnames, hschemas, Contents.allTables,
    List.flatMap_assoc]
  simp only [List.flatMap_map]
  rfl

/-- What is asked to learn the topology leads to the schemas and tables of the
database. -/
theorem run_topology (hc : c.Holds d) (hd : d.Distinct) :
    ∃ topology, Topology.inquiry.run c.repository.answer = .ok topology ∧
      topology.schemas = d.schemas ∧ topology.allTables = d.allTables := by
  obtain ⟨name, hrun⟩ := hc.lists.run_inquiry
  rw [OrderedMap.eraseDups_of_nodup hd.schemas_nodup] at hrun
  exact ⟨_, hrun, Contents.schemas_topology _ _ _ hd.schemas_nodup,
    hd.allTables_topology _ _ _⟩

/-- What is asked to learn the columns leads to the index of all columns. -/
theorem run_columns (hc : c.Holds d) (schemas : List String) :
    (ColumnIndex.inquiry schemas).run c.repository.answer =
      .ok (.ofColumns (d.allTables.flatMap d.columns)) := by
  rw [Catalog.run_columns, hc.columns_eq]
  rfl

end Holds

end Catalog

end SchemaScope.Sqlite
