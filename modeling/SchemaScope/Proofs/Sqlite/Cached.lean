import Mathlib.Tactic.IntervalCases
import SchemaScope.Proofs.Sqlite.Contents
import SchemaScope.Proofs.Worker.Answers

/-!
What a cache shows of an SQLite database. Main statement: once a bind of the
database has returned and a refresh of the cache that it has installed is over,
the cache shows the schemas, the tables and the columns of the database, and
nothing else, until another cache is installed.
-/

namespace SchemaScope.Sqlite

/-- A cache shows the schemas and tables of a database in its order, for every
table that has columns a description of each of them, and nothing else. -/
structure Contents.ShownBy (d : Contents) (cache : SchemaCache) : Prop where
  schemas : cache.topology.schemas = d.schemas
  allTables : cache.topology.allTables = d.allTables
  isSome_iff : ∀ schema table,
    (cache.columnsIn? schema table).isSome = true ↔
      ⟨schema, table⟩ ∈ cache.topology.allTables ∧
        d.tableInfo schema table ≠ []
  described : ∀ schema table columns,
    cache.columnsIn? schema table = some columns →
      List.Forall₂
        (TableInfo.Describes schema table (d.tableInfo schema table))
        (d.tableInfo schema table) columns
  noOther : ∀ n ∈ cache.columns.tables.keys,
    n ∈ cache.topology.allTables ∧ d.tableInfo n.schema n.table ≠ []

variable {c : Catalog} {d : Contents}

theorem Contents.Distinct.shownBy (hd : d.Distinct) {cache : SchemaCache}
    (hschemas : cache.topology.schemas = d.schemas)
    (htables : cache.topology.allTables = d.allTables)
    (hcolumns : cache.columns = .ofColumns (d.allTables.flatMap d.columns)) :
    d.ShownBy cache := by
  have hget : ∀ n, cache.columns.tables.get? n =
      if n ∈ d.allTables ∧ d.tableInfo n.schema n.table ≠ [] then
        some (d.columns n) else none := by
    intro n
    rw [hcolumns, hd.get?_ofColumns]
  refine ⟨hschemas, htables, ?_, ?_, ?_⟩
  · intro schema table
    rw [SchemaCache.columnsIn?, ColumnIndex.get?, hget, htables]
    split
    · rename_i hlisted
      exact iff_of_true rfl hlisted
    · rename_i hlisted
      exact iff_of_false Bool.false_ne_true hlisted
  · intro schema table columns hsome
    rw [SchemaCache.columnsIn?, ColumnIndex.get?, hget] at hsome
    split at hsome
    · cases hsome
      exact d.forall₂_columns ⟨schema, table⟩
    · cases hsome
  · intro n hn
    rw [← OrderedMap.isSome_get?_iff, hget] at hn
    rw [htables]
    split at hn
    · assumption
    · cases hn

/-- A database whose answers do not change is shown as it is: a bind of it
returns without an error, and from the end of any refresh that was started for
the cache the bind has installed, until another cache is installed, the
published cache shows the contents of the database and nothing else. -/
theorem contents_shown {H : History Repository} (hc : c.Holds d)
    (hd : d.Distinct)
    (hanswers : H.Answers c.repository c.repository.answer) {b : H.Bind}
    (hrepository : b.repository = c.repository) {result : Outcome Unit}
    (hreturns : b.Returns result) :
    result = .ok () ∧ ∃ j installed, b.first < j ∧ j < b.last ∧
      H.Installed j b.caller c.repository installed ∧
      ∀ n first work,
        (∀ k id, j < k → k < n →
          H.steps[k]? ≠ some (.caller id .install)) →
        H.Finished first work n →
        work.generation = installed.generation →
        ∃ cache, (H.worker n).cache? = some cache ∧
          cache.generation = installed.generation ∧ d.ShownBy cache := by
  obtain ⟨topology, htopology, hschemas, htables⟩ := hc.run_topology hd
  obtain ⟨hok, j, installed, hfirst, hlast, hinstalled, rfl⟩ :=
    hreturns.exists_topology (hrepository ▸ hanswers) htopology
  rw [hrepository] at hinstalled
  refine ⟨hok, j, installed, hfirst, hlast, hinstalled, ?_⟩
  intro n first work hnone hfinished hwork
  obtain ⟨cache, hcache, hfixed, hcolumns⟩ :=
    hinstalled.publishes_of_finished hanswers (hc.run_columns _) hnone
      hfinished hwork
  obtain ⟨hgeneration, hsame⟩ := Prod.mk.inj hfixed
  refine ⟨cache, hcache, hgeneration, hd.shownBy ?_ ?_ hcolumns⟩
  · rw [hsame, hschemas]
  · rw [hsame, htables]

namespace ContentsWitness

/-- Two files with a table of the same name. The one that numbers its rows by
itself is the one whose key has a single column; a view has no columns. -/
def shop : Contents where
  databases :=
    [("main", some "shop.db"), ("temp", none), ("archive", some "old.db")]
  master
    | "main" => [⟨"table", "orders"⟩, ⟨"index", "by_day"⟩, ⟨"view", "recent"⟩]
    | "archive" => [⟨"table", "orders"⟩]
    | "temp" => [⟨"table", "notes"⟩]
    | _ => []
  tableInfo
    | "main", "orders" =>
        [⟨"id", "Integer", true, none, 1⟩, ⟨"note", "TEXT", false, none, 0⟩]
    | "archive", "orders" =>
        [⟨"day", "INTEGER", true, none, 1⟩, ⟨"line", "INTEGER", true, none, 2⟩]
    | "temp", "notes" => [⟨"note", "TEXT", false, none, 0⟩]
    | _, _ => []

def catalog : Catalog :=
  { Catalog.new with
    databaseList := .ok shop.databases
    master := fun schema => .ok (shop.master schema)
    tableInfo := fun schema table => .ok (shop.tableInfo schema table) }

theorem holds_catalog : catalog.Holds shop :=
  ⟨rfl, fun _ _ => rfl, fun _ _ => rfl⟩

theorem distinct_shop : shop.Distinct := by
  have hmaster : ∀ schema ∈ shop.schemas,
      ((shop.master schema).map MasterRow.name).Nodup := by decide
  refine ⟨by decide, fun schema hschema => ?_⟩
  exact (List.filter_sublist.map MasterRow.name).nodup (hmaster schema hschema)

theorem answer_databaseColumns :
    catalog.repository.answer .databaseColumns =
      .ok (shop.allTables.flatMap shop.columns) := by
  change Catalog.refused catalog.columns = _
  rw [holds_catalog.columns_eq]
  rfl

theorem answer_foreignKeys (schema : String) (hschema : schema ∈ shop.schemas) :
    catalog.repository.answer (.schemaForeignKeys schema) = .ok [] := by
  have hrows : ∀ table, catalog.foreignKeyRows schema table = .ok [] := by
    intro table
    change (([] : List ForeignKeyInfo).mergeSort ForeignKeyInfo.atMost).foldlM
      (catalog.scanColumn schema table) {} >>= (fun scan => pure scan.rows) = _
    rw [List.mergeSort_nil]
    rfl
  have hitems : ((shop.tables schema).flatMap fun table =>
      Catalog.cursorItems (catalog.foreignKeyRows schema table)) = [] := by
    simp [hrows, Catalog.cursorItems]
  change Catalog.refused (catalog.foreignKeys schema) = _
  rw [Catalog.foreignKeys, holds_catalog.lists.tables_eq hschema]
  change Catalog.refused (Relation.ofCursor schema ((shop.tables schema).flatMap
    fun table => Catalog.cursorItems (catalog.foreignKeyRows schema table))).1 =
      _
  rw [hitems]
  rfl

/-- What the loop or a caller is told. -/
def told (call : Call) : Outcome call.Answer := catalog.repository.answer call

/-- Somebody asks for readiness, and then the database is bound and
refreshed. -/
def steps : List (Label Repository) :=
  .caller 1 .readCompleted :: [.bind catalog.repository,
    .answered .currentDatabase (told .currentDatabase),
    .answered .databases (told .databases),
    .answered .currentSchema (told .currentSchema),
    .answered .schemas (told .schemas),
    .answered .schemaTables (told .schemaTables), .install, .count,
    .send].map (.caller 0) ++
  [.take, .readRequests, .begin,
    .answered .databaseColumns (.ok (shop.allTables.flatMap shop.columns)),
    .writeColumns, .answered (.schemaForeignKeys "main") (.ok []),
    .answered (.schemaForeignKeys "archive") (.ok []), .writeForeignKeys,
    .countRun, .complete].map .loop

def history : History Repository := ⟨steps, rfl⟩

/-- If something is answered, then as the database answers it. -/
def Agrees : Label Repository → Prop
  | .caller _ (.answered call outcome) | .loop (.answered call outcome) =>
      outcome = catalog.repository.answer call
  | _ => True

theorem agrees_of_mem : ∀ label ∈ steps, Agrees label := by
  have hmain := answer_foreignKeys "main" (by decide)
  have harchive := answer_foreignKeys "archive" (by decide)
  simp [steps, Agrees, told, answer_databaseColumns, hmain, harchive]

theorem answers_history :
    history.Answers catalog.repository catalog.repository.answer := by
  constructor
  · intro n id call outcome _ hlabel _
    exact agrees_of_mem _ (List.mem_of_getElem? hlabel)
  · intro n call outcome _ hlabel _ _
    exact agrees_of_mem _ (List.mem_of_getElem? hlabel)

theorem present_history (n : Nat) (hfirst : 1 < n) (hlast : n ≤ 9) :
    ((history.worker n).callers.get? 0).isSome = true := by
  interval_cases n
  all_goals rfl

def bind : history.Bind where
  caller := 0
  repository := catalog.repository
  first := 1
  last := 9
  begins := rfl
  letIn := rfl
  first_lt := by decide
  last_le := by decide
  present := present_history

/-- What the refresh is for. -/
def work : Assignment Repository :=
  ⟨catalog.repository, ["main", "archive"], 1⟩

theorem finished_history : history.Finished 12 work 20 := by
  have hatWork : ∀ m, 12 < m → m ≤ 17 →
      (history.worker m).loop.assignment? = some work := by
    intro m hfirst hlast
    interval_cases m
    all_goals rfl
  exact ⟨14, 17, by decide, by decide, by decide,
    ⟨rfl, by decide, rfl, hatWork⟩, rfl, rfl⟩

theorem contents_shown_shop :
    catalog.Holds shop ∧ shop.Distinct ∧
      history.Answers catalog.repository catalog.repository.answer ∧
      bind.Returns (.ok ()) ∧ history.Finished 12 work 20 ∧
      ∃ cache, (history.worker 20).cache? = some cache ∧
        shop.ShownBy cache ∧
        cache.topology.schemas = ["main", "archive"] ∧
        cache.columnsIn? "temp" "notes" = none := by
  have hreturns : bind.Returns (.ok ()) := .head _
  obtain ⟨_, j, installed, _, hlast, hinstalled, hshown⟩ :=
    contents_shown holds_catalog distinct_shop answers_history rfl hreturns
  have hj : j = 7 := by
    have hstep := hinstalled.step
    change j < 9 at hlast
    interval_cases j
    all_goals first | rfl | cases hstep
  subst hj
  have hnone : ∀ k id, 7 < k → k < 20 →
      history.steps[k]? ≠ some (.caller id .install) := by
    intro k id hfirst hlast
    interval_cases k
    all_goals nofun
  obtain ⟨cache, hcache, _, hcontents⟩ :=
    hshown 20 12 work hnone finished_history hinstalled.number.symm
  refine ⟨holds_catalog, distinct_shop, answers_history, hreturns,
    finished_history, cache, hcache, hcontents, hcontents.schemas, ?_⟩
  rw [← Option.not_isSome_iff_eq_none, hcontents.isSome_iff,
    hcontents.allTables, Contents.mem_allTables]
  rintro ⟨⟨htemp, _⟩, _⟩
  revert htemp
  decide

end ContentsWitness

end SchemaScope.Sqlite
