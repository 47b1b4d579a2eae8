import SchemaScope.Proofs.Refresh
import SchemaScope.Proofs.Sqlite.Tables

/-!
The columns of an SQLite database, described all at once or schema by schema.
Main statement: for the schemas of a topology that the database has been asked
for, both ways lead to the same index or to the same error, and neither of them
looks at temporary tables.
-/

namespace SchemaScope

/-- A repository that does not offer to describe all columns at once. -/
def Repository.bySchema (r : Repository) : Repository where
  dialect := r.dialect
  answer
    | .databaseColumns => Call.unanswered .databaseColumns
    | call => r.answer call

namespace Sqlite

namespace Catalog

/-- No two schemas have the same name. -/
def NamesApart (c : Catalog) : Prop :=
  ∀ databases, c.databaseList = .ok databases →
    (databases.map Prod.fst).Nodup

/-- Another catalog says the same about everything but temporary tables. -/
structure SameButTemporary (c c' : Catalog) : Prop where
  databases : c'.databaseList.map (List.filter (·.1 ≠ temporary)) =
    c.databaseList.map (List.filter (·.1 ≠ temporary))
  master : ∀ schema, schema ≠ temporary → c'.master schema = c.master schema
  tableInfo : ∀ schema table, schema ≠ temporary →
    c'.tableInfo schema table = c.tableInfo schema table

variable {c c' : Catalog} {d : Contents}

theorem refused_map {α β : Type} (f : α → β) (r : Except String α) :
    refused (r.map f) = (refused r).map f := by
  cases r <;> rfl

theorem refused_mapM {α β : Type} (f : α → Except String β) (items : List α) :
    (items.mapM fun item => refused (f item)) = refused (items.mapM f) := by
  induction items with
  | nil => rfl
  | cons item rest ih =>
      rw [List.mapM_cons, List.mapM_cons, ih]
      cases f item with
      | error e => rfl
      | ok result => cases rest.mapM f <;> rfl

/-- Asked schema by schema, a database describes the columns of each in turn,
up to the first one that it refuses. -/
theorem run_columns_bySchema (c : Catalog) (schemas : List String) :
    (ColumnIndex.inquiry schemas).run c.repository.bySchema.answer =
      refused (((schemas.mapM c.schemaColumns).map List.flatten).map
        ColumnIndex.ofColumns) := by
  refine (ColumnIndex.run_inquireSchemas_eq .empty schemas).trans ?_
  change ((schemas.mapM fun schema => refused (c.schemaColumns schema)).map
    fun answers => ColumnIndex.ofColumns answers.flatten) = _
  rw [refused_mapM, ← refused_map]
  cases schemas.mapM c.schemaColumns <;> rfl

theorem run_columns_eq_bySchema (h : c.databaseList = .ok d.databases) :
    (ColumnIndex.inquiry d.schemas).run c.repository.answer =
      (ColumnIndex.inquiry d.schemas).run c.repository.bySchema.answer := by
  obtain ⟨files, hfiles, hnames⟩ := exists_schemas h
  rw [run_columns, run_columns_bySchema, columns_eq_mapM hfiles, hnames]

/-- A topology that has been learnt of a database lists the schemas that the
database lists. -/
theorem NamesApart.exists_of_run_topology (hc : c.NamesApart)
    {topology : Topology}
    (htopology : Topology.inquiry.run c.repository.answer = .ok topology) :
    ∃ d, c.Lists d ∧ d.schemas.Nodup ∧ topology.schemas = d.schemas := by
  obtain ⟨reports, hreports⟩ :=
    Topology.exists_tables_of_run_inquiry htopology
  obtain ⟨d, hd⟩ := exists_lists (exists_of_refused_eq_ok hreports)
  obtain ⟨name, hrun⟩ := hd.run_inquiry
  have hnodup : d.schemas.Nodup := (hc _ hd.databases).filter _
  refine ⟨d, hd, hnodup, ?_⟩
  rw [OrderedMap.eraseDups_of_nodup hnodup] at hrun
  obtain rfl := Except.ok.inj (htopology.symm.trans hrun)
  exact Contents.schemas_topology _ _ _ hnodup

namespace SameButTemporary

theorem schemas_eq (h : SameButTemporary c c') : c'.schemas = c.schemas := by
  have hof : ∀ c : Catalog, c.schemas =
      (c.databaseList.map (List.filter (·.1 ≠ temporary))).map
        (List.map fun e => (e.1, e.2.getD "")) := by
    intro c
    rw [schemas]
    cases c.databaseList with
    | error e => rfl
    | ok databases =>
        exact congrArg Except.ok (List.filter_map ..)
  rw [hof, hof, h.databases]

theorem tables_eq (h : SameButTemporary c c') {schema : String}
    (hschema : schema ≠ temporary) : c'.tables schema = c.tables schema := by
  rw [Catalog.tables, Catalog.tables, h.master schema hschema]

theorem schemaColumns_eq (h : SameButTemporary c c') {schema : String}
    (hschema : schema ≠ temporary) :
    c'.schemaColumns schema = c.schemaColumns schema := by
  have htable : c'.tableColumns schema = c.tableColumns schema := by
    funext table
    rw [tableColumns, tableColumns, h.tableInfo schema table hschema]
  rw [schemaColumns, schemaColumns, h.tables_eq hschema, htable]

theorem mapM_schemaColumns_eq (h : SameButTemporary c c')
    {schemas : List String} (hschemas : temporary ∉ schemas) :
    schemas.mapM c'.schemaColumns = schemas.mapM c.schemaColumns := by
  refine Fallible.mapM_congr fun schema hschema => h.schemaColumns_eq ?_
  rintro rfl
  exact hschemas hschema

/-- Temporary tables add no columns to those of the schemas. -/
theorem run_eq (h : SameButTemporary c c')
    (hdatabases : c.databaseList = .ok d.databases) :
    (ColumnIndex.inquiry d.schemas).run c'.repository.answer =
        (ColumnIndex.inquiry d.schemas).run c.repository.answer ∧
      (ColumnIndex.inquiry d.schemas).run c'.repository.bySchema.answer =
        (ColumnIndex.inquiry d.schemas).run c.repository.bySchema.answer := by
  obtain ⟨files, hfiles, hnames⟩ := exists_schemas hdatabases
  have hsame := h.mapM_schemaColumns_eq d.temporary_notMem_schemas
  constructor
  · rw [run_columns, run_columns, columns_eq_mapM hfiles,
      columns_eq_mapM (h.schemas_eq.trans hfiles), hnames, hsame]
  · rw [run_columns_bySchema, run_columns_bySchema, hsame]

end SameButTemporary

/-- For the schemas of a topology that a database has been asked for, the
columns are the same index or the same error, be they described all at once or
schema by schema. The answers about schemas and about tables name these schemas
in the same order; the schema of temporary tables is not one of them, and what
it holds makes no difference. -/
theorem run_columns_either_way (hc : c.NamesApart) {topology : Topology}
    (htopology : Topology.inquiry.run c.repository.answer = .ok topology) :
    (ColumnIndex.inquiry topology.schemas).run c.repository.answer =
        (ColumnIndex.inquiry topology.schemas).run
          c.repository.bySchema.answer ∧
      c.repository.answer .schemas = .ok topology.schemas ∧
      (∃ reports, c.repository.answer .schemaTables = .ok reports ∧
        reports.map Prod.fst = topology.schemas) ∧
      temporary ∉ topology.schemas ∧
      ∀ c', SameButTemporary c c' →
        (ColumnIndex.inquiry topology.schemas).run c'.repository.answer =
            (ColumnIndex.inquiry topology.schemas).run c.repository.answer ∧
          (ColumnIndex.inquiry topology.schemas).run
              c'.repository.bySchema.answer =
            (ColumnIndex.inquiry topology.schemas).run
              c.repository.bySchema.answer := by
  obtain ⟨d, hd, hnodup, hschemas⟩ := hc.exists_of_run_topology htopology
  obtain ⟨files, hfiles, hnames⟩ := exists_schemas hd.databases
  rw [hschemas]
  refine ⟨run_columns_eq_bySchema hd.databases, ?_,
    ⟨_, hd.answer_schemaTables, ?_⟩, d.temporary_notMem_schemas, ?_⟩
  · change refused (c.schemas.map _) = _
    rw [hfiles, ← hnames]
    rfl
  · rw [OrderedMap.eraseDups_of_nodup hnodup, List.map_map]
    exact List.map_id d.schemas
  · intro c' h
    exact h.run_eq hd.databases

namespace EitherWayWitness

/-- A table of the second file cannot be described, and temporary tables cannot
even be named. -/
def catalog : Catalog :=
  { Catalog.new with
    databaseList := .ok [("main", some "shop.db"), ("temp", none),
      ("archive", some "old.db")]
    master := fun
      | "temp" => .error "temporary store is locked"
      | _ => .ok [⟨"table", "orders"⟩]
    tableInfo := fun
      | "main", _ => .ok [⟨"id", "INTEGER", true, none, 1⟩]
      | _, _ => .error "disk image is malformed" }

/-- The same without temporary tables. -/
def without : Catalog :=
  { catalog with
    databaseList := .ok [("main", some "shop.db"), ("archive", some "old.db")] }

theorem namesApart_catalog : catalog.NamesApart := by
  intro databases h
  cases h
  decide

theorem lists_catalog :
    catalog.Lists ⟨[("main", some "shop.db"), ("temp", none),
      ("archive", some "old.db")], fun _ => [⟨"table", "orders"⟩],
      fun _ _ => []⟩ := by
  refine ⟨rfl, ?_⟩
  decide

theorem sameButTemporary_without : SameButTemporary catalog without :=
  ⟨by decide, fun _ _ => rfl, fun _ _ _ => rfl⟩

theorem run_bySchema_catalog :
    (ColumnIndex.inquiry ["main", "archive"]).run
        catalog.repository.bySchema.answer =
      .error (.engine "disk image is malformed") := by
  have hcolumns : ["main", "archive"].mapM catalog.schemaColumns =
      .error "disk image is malformed" := by decide +kernel
  rw [run_columns_bySchema, hcolumns]
  rfl

/-- Both ways end with the same error, with and without temporary tables. -/
theorem run_columns_either_way_refused :
    catalog.NamesApart ∧ ∃ topology,
      Topology.inquiry.run catalog.repository.answer = .ok topology ∧
      topology.schemas = ["main", "archive"] ∧
      (ColumnIndex.inquiry topology.schemas).run catalog.repository.answer =
        .error (.engine "disk image is malformed") ∧
      (ColumnIndex.inquiry topology.schemas).run without.repository.answer =
        .error (.engine "disk image is malformed") := by
  obtain ⟨name, htopology⟩ := lists_catalog.run_inquiry
  obtain ⟨heither, hanswer, _, _, htemporary⟩ :=
    run_columns_either_way namesApart_catalog htopology
  obtain ⟨hwithout, _⟩ := htemporary without sameButTemporary_without
  have htold : catalog.repository.answer .schemas =
      .ok ["main", "archive"] := rfl
  have hschemas := Except.ok.inj (hanswer.symm.trans htold)
  refine ⟨namesApart_catalog, _, htopology, hschemas, ?_, ?_⟩
  · rw [heither, hschemas, run_bySchema_catalog]
  · rw [hwithout, heither, hschemas, run_bySchema_catalog]

end EitherWayWitness

end Catalog

end Sqlite

end SchemaScope
