import Mathlib.Data.List.Sort
import SchemaScope.Proofs.Index.Columns
import SchemaScope.Proofs.TableName
import SchemaScope.Proofs.Text.Bytes
import SchemaScope.Proofs.Topology.Merging
import SchemaScope.SchemaCache

/-!
What a table name stands for in a cache. A dotted name stands for one table of
one schema; a bare one is looked for in the default schema, in the schemas of
the topology, and at last in those that only the column index knows. Main
statement: a name has the columns of the first table that this order finds, and
the order of the entries in the index has no part in it.
-/

namespace SchemaScope

namespace ColumnIndex

/-- A schema has a table with columns. -/
def HasSchema (index : ColumnIndex) (schema : String) : Prop :=
  ∃ table, (index.get? schema table).isSome

theorem hasSchema_iff {index : ColumnIndex} {schema : String} :
    index.HasSchema schema ↔
      schema ∈ index.tables.keys.map TableName.schema := by
  rw [List.mem_map]
  constructor
  · rintro ⟨table, htable⟩
    exact ⟨⟨schema, table⟩, OrderedMap.isSome_get?_iff.1 htable, rfl⟩
  · rintro ⟨n, hn, rfl⟩
    exact ⟨n.table, OrderedMap.isSome_get?_iff.2 hn⟩

theorem mem_schemas {index : ColumnIndex} {schema : String} :
    schema ∈ index.schemas ↔ index.HasSchema schema := by
  rw [schemas, List.mem_mergeSort, List.mem_eraseDups, hasSchema_iff]

theorem nodup_eraseDups (names : List String) : names.eraseDups.Nodup := by
  have hdistinct := (NameSet.empty.insertAll names).distinct
  rwa [NameSet.names_insertAll] at hdistinct

/-- The schemas of an index stand in ascending order, each one once. -/
theorem schemas_pairwise (index : ColumnIndex) :
    index.schemas.Pairwise (· < ·) := by
  have trans (a b c : String) (hab : decide (a ≤ b)) (hbc : decide (b ≤ c)) :
      decide (a ≤ c) := decide_eq_true
    (String.le_trans (of_decide_eq_true hab) (of_decide_eq_true hbc))
  have total (a b : String) : decide (a ≤ b) || decide (b ≤ a) := by
    simpa using String.le_total a b
  have hsorted : index.schemas.Pairwise (· ≤ ·) :=
    (List.pairwise_mergeSort trans total _).imp of_decide_eq_true
  have hnodup : index.schemas.Nodup :=
    (List.mergeSort_perm _ _).nodup_iff.2 (nodup_eraseDups _)
  exact (hsorted.and hnodup).imp fun h => lt_of_le_of_ne h.1 h.2

/-- The schemas of an index are known by their order. -/
theorem schemas_eq {index : ColumnIndex} {names : List String}
    (hsorted : names.Pairwise (· < ·))
    (hmem : ∀ schema, index.HasSchema schema ↔ schema ∈ names) :
    index.schemas = names := by
  refine List.Pairwise.eq_of_mem_iff index.schemas_pairwise hsorted ?_
  intro schema
  rw [mem_schemas, hmem]

end ColumnIndex

namespace SchemaCache

variable (cache : SchemaCache) {name : String}

/-- What comes again later in a search changes nothing. -/
theorem findSome?_append_filter {α β : Type} (f : α → Option β)
    (first last : List α) (again : α → Bool)
    (hagain : ∀ a ∈ last, again a = false → a ∈ first) :
    (first ++ last.filter again).findSome? f = (first ++ last).findSome? f := by
  rw [List.findSome?_append, List.findSome?_append]
  cases hfirst : first.findSome? f with
  | some b => rfl
  | none =>
      rw [Option.none_or, Option.none_or]
      have hnone := List.findSome?_eq_none_iff.1 hfirst
      clear hfirst
      induction last with
      | nil => rfl
      | cons a last ih =>
          have hrest := ih fun b hb => hagain b (List.mem_cons_of_mem a hb)
          by_cases ha : again a = true
          · rw [List.filter_cons_of_pos ha, List.findSome?_cons,
              List.findSome?_cons, hrest]
          · have hmem := hagain a List.mem_cons_self (Bool.eq_false_iff.2 ha)
            rw [List.filter_cons_of_neg ha, List.findSome?_cons, hnone a hmem,
              hrest]

theorem columnsOf?_of_splits {n : TableName} (h : n.Splits name) :
    cache.columnsOf? name = cache.columnsIn? n.schema n.table := by
  rw [columnsOf?, TableName.parse?_eq_some_iff.2 h]
  rfl

/-- The schemas in which a bare table name is looked for, in that order. -/
def searchOrder : List String :=
  cache.topology.defaultSchema :: cache.topology.schemas ++
    cache.columns.schemas

/-- The look-ups of a bare name, one after the other, are one search. -/
theorem columnsOf?_of_parse?_eq_none (h : TableName.parse? name = none) :
    cache.columnsOf? name =
      cache.searchOrder.findSome? fun schema =>
        cache.columnsIn? schema name := by
  rw [columnsOf?, h, searchOrder, List.findSome?_append, List.findSome?_cons]
  simp only [columnsIn?, Option.orElse_eq_orElse, Option.orElse_eq_or]
  cases cache.columns.get? cache.topology.defaultSchema name with
  | none => rfl
  | some columns => rfl

theorem columnsOf?_of_not_splits (h : ∀ n : TableName, ¬ n.Splits name) :
    cache.columnsOf? name =
      cache.searchOrder.findSome? fun schema =>
        cache.columnsIn? schema name := by
  refine cache.columnsOf?_of_parse?_eq_none ?_
  rw [Option.eq_none_iff_forall_ne_some]
  intro n hn
  exact h n (TableName.parse?_eq_some_iff.1 hn)

/-- The schemas that only the column index knows come last, in the order of
their bytes. -/
theorem exists_others (h : ∀ n : TableName, ¬ n.Splits name) :
    ∃ others : List String,
      others.Pairwise (fun a b => Text.bytes a < Text.bytes b) ∧
      (∀ schema, schema ∈ others ↔
        cache.columns.HasSchema schema ∧ schema ∉ cache.topology.schemas) ∧
      cache.columnsOf? name =
        (cache.topology.defaultSchema :: cache.topology.schemas ++
          others).findSome? fun schema => cache.columnsIn? schema name := by
  refine ⟨cache.columns.schemas.filter fun schema =>
    decide (schema ∉ cache.topology.schemas), ?_, ?_, ?_⟩
  · exact (cache.columns.schemas_pairwise.imp Text.bytes_lt_iff.2).filter _
  · intro schema
    rw [List.mem_filter, ColumnIndex.mem_schemas, decide_eq_true_iff]
  · rw [cache.columnsOf?_of_not_splits h, searchOrder]
    refine (findSome?_append_filter _ _ _ _ ?_).symm
    intro schema _ hknown
    exact List.mem_cons_of_mem _ (by simpa using hknown)

/-- A bare name is unknown only if no schema at all has a table of the name. -/
theorem columnsOf?_eq_none_iff (h : '.' ∉ name.toList) :
    cache.columnsOf? name = none ↔
      ∀ schema, cache.columnsIn? schema name = none := by
  rw [cache.columnsOf?_of_not_splits fun n hn => h hn.mem_dot,
    List.findSome?_eq_none_iff]
  constructor
  · intro hnone schema
    by_cases hindexed : cache.columns.HasSchema schema
    · exact hnone schema
        (List.mem_append_right _ (ColumnIndex.mem_schemas.2 hindexed))
    · rw [← Option.not_isSome_iff_eq_none]
      exact fun hsome => hindexed ⟨name, hsome⟩
  · intro hnone schema _
    exact hnone schema

/-- A column is the first one of its name among those of the table. -/
theorem column?_eq_some_iff {column : String} {found : Column} :
    cache.column? name column = some found ↔
      ∃ columns before after, cache.columnsOf? name = some columns ∧
        columns = before ++ found :: after ∧ found.name = column ∧
        ∀ c ∈ before, c.name ≠ column := by
  rw [column?, Option.bind_eq_bind, Option.bind_eq_some_iff]
  constructor
  · rintro ⟨columns, hcolumns, hfound⟩
    obtain ⟨hname, before, after, heq, hbefore⟩ :=
      List.find?_eq_some_iff_append.1 hfound
    exact ⟨columns, before, after, hcolumns, heq, of_decide_eq_true hname,
      fun c hc => by simpa using hbefore c hc⟩
  · rintro ⟨columns, before, after, hcolumns, heq, hname, hbefore⟩
    refine ⟨columns, hcolumns, List.find?_eq_some_iff_append.2
      ⟨decide_eq_true hname, before, after, heq, fun c hc => ?_⟩⟩
    simpa using hbefore c hc

/-- Whatever a name stands for, its columns are those of one table, which the
name names or is the name of. -/
theorem exists_columnsIn? {columns : List Column}
    (h : cache.columnsOf? name = some columns) :
    ∃ n : TableName, (n.Splits name ∨ n.table = name) ∧
      cache.columnsIn? n.schema n.table = some columns := by
  by_cases hsplits : ∃ n : TableName, n.Splits name
  · obtain ⟨n, hn⟩ := hsplits
    exact ⟨n, .inl hn, by rw [← cache.columnsOf?_of_splits hn, h]⟩
  · rw [cache.columnsOf?_of_not_splits (not_exists.1 hsplits)] at h
    obtain ⟨schema, _, hschema⟩ := List.exists_of_findSome?_eq_some h
    exact ⟨⟨schema, name⟩, .inr rfl, hschema⟩

/-- In an index of given columns those of a table are all that were given for
it. -/
theorem eq_columnsFor {given columns : List Column} {n : TableName}
    (hgiven : cache.columns = .ofColumns given)
    (h : cache.columnsIn? n.schema n.table = some columns) :
    columns = ColumnIndex.columnsFor n given := by
  rw [columnsIn?, ColumnIndex.get?, hgiven, ColumnIndex.get?_ofColumns] at h
  split at h
  · cases h
  · exact (Option.some.inj h).symm

theorem exists_columnsFor {given columns : List Column}
    (hgiven : cache.columns = .ofColumns given)
    (h : cache.columnsOf? name = some columns) :
    ∃ n : TableName, (n.Splits name ∨ n.table = name) ∧
      columns = ColumnIndex.columnsFor n given := by
  obtain ⟨n, hname, hn⟩ := cache.exists_columnsIn? h
  exact ⟨n, hname, cache.eq_columnsFor hgiven hn⟩

/-- A cache is known by its topology and by the columns of each table. -/
theorem columnsOf?_congr {other : SchemaCache}
    (htopology : other.topology = cache.topology)
    (hcolumns : ∀ schema table,
      other.columnsIn? schema table = cache.columnsIn? schema table) :
    other.columnsOf? name = cache.columnsOf? name := by
  have hschemas : other.columns.schemas = cache.columns.schemas := by
    refine ColumnIndex.schemas_eq cache.columns.schemas_pairwise ?_
    intro schema
    rw [ColumnIndex.mem_schemas]
    exact exists_congr fun table =>
      iff_of_eq (congrArg (·.isSome = true) (hcolumns schema table))
  by_cases hsplits : ∃ n : TableName, n.Splits name
  · obtain ⟨n, hn⟩ := hsplits
    rw [other.columnsOf?_of_splits hn, cache.columnsOf?_of_splits hn, hcolumns]
  · have hnone := not_exists.1 hsplits
    rw [other.columnsOf?_of_not_splits hnone,
      cache.columnsOf?_of_not_splits hnone, searchOrder, searchOrder,
      htopology, hschemas, funext fun schema => hcolumns schema name]

/-- A name that can be split at its last dot has the columns of the table it
names, and no others. Any other name has those of the first table of that name
in the default schema, in the schemas of the topology in their order, and in the
schemas that only the column index knows in the order of their bytes. So a bare
name has no columns only if no schema has a table of that name. A column of a
name is the first one so called among its columns, which belong to one table.
In which order the index holds its entries makes no difference. -/
theorem columnsOf?_resolved (name : String) :
    (∀ n : TableName, n.Splits name →
      cache.columnsOf? name = cache.columnsIn? n.schema n.table) ∧
    ((∀ n : TableName, ¬ n.Splits name) →
      ∃ others : List String,
        others.Pairwise (fun a b => Text.bytes a < Text.bytes b) ∧
        (∀ schema, schema ∈ others ↔
          cache.columns.HasSchema schema ∧ schema ∉ cache.topology.schemas) ∧
        cache.columnsOf? name =
          (cache.topology.defaultSchema :: cache.topology.schemas ++
            others).findSome? fun schema => cache.columnsIn? schema name) ∧
    ('.' ∉ name.toList →
      (cache.columnsOf? name = none ↔
        ∀ schema, cache.columnsIn? schema name = none)) ∧
    (∀ column found, cache.column? name column = some found ↔
      ∃ columns before after, cache.columnsOf? name = some columns ∧
        columns = before ++ found :: after ∧ found.name = column ∧
        ∀ c ∈ before, c.name ≠ column) ∧
    (∀ given columns, cache.columns = .ofColumns given →
      cache.columnsOf? name = some columns →
        ∃ n : TableName, (n.Splits name ∨ n.table = name) ∧
          columns = ColumnIndex.columnsFor n given) ∧
    ∀ other : SchemaCache, other.topology = cache.topology →
      (∀ schema table,
        other.columnsIn? schema table = cache.columnsIn? schema table) →
      other.columnsOf? name = cache.columnsOf? name :=
  ⟨fun _ => cache.columnsOf?_of_splits, cache.exists_others,
    cache.columnsOf?_eq_none_iff, fun _ _ => cache.column?_eq_some_iff,
    fun _ _ => cache.exists_columnsFor, fun _ => cache.columnsOf?_congr⟩

namespace ResolutionWitness

/-- A column of the only kind that is of interest here. -/
def keyOf (schema table : String) : Column :=
  { id := ⟨schema, table, "id"⟩, dataType := schema }

/-- The columns of a database, those of the schemas that are not in its topology
in no particular order. -/
def given : List Column :=
  [keyOf "zoo" "logs", keyOf "a" "orders", keyOf "Zoo" "logs",
    keyOf "b" "orders", keyOf "zoo" "orders", keyOf "main" "users",
    keyOf "a" "users"]

/-- A cache whose default schema is not in its topology. -/
def shop : SchemaCache where
  generation := 1
  topology := .ofAnswers none [] "main" ["b", "a"] []
  columns := .ofColumns given

theorem schemas_shop :
    shop.columns.schemas = ["Zoo", "a", "b", "main", "zoo"] := by
  have hkeys : shop.columns.tables.keys.map TableName.schema =
      ["zoo", "a", "Zoo", "b", "zoo", "main", "a"] := by decide +kernel
  refine ColumnIndex.schemas_eq (by decide +kernel) ?_
  intro schema
  rw [ColumnIndex.hasSchema_iff, hkeys]
  simp only [List.mem_cons, List.not_mem_nil, or_false]
  tauto

/-- The table `users` of the default schema hides that of a listed schema, and
of the schemas outside the topology the first one by its bytes has `logs`. -/
theorem columnsOf?_resolved_shop :
    shop.columnsOf? "a.orders" = some [keyOf "a" "orders"] ∧
      shop.columnsOf? "users" = some [keyOf "main" "users"] ∧
      shop.columnsOf? "orders" = some [keyOf "b" "orders"] ∧
      shop.columnsOf? "logs" = some [keyOf "Zoo" "logs"] ∧
      shop.column? "orders" "id" = some (keyOf "b" "orders") ∧
      (shop.columnsOf? "carts" = none ∧
        ∀ schema, shop.columnsIn? schema "carts" = none) := by
  have hsplits : TableName.Splits ⟨"a", "orders"⟩ "a.orders" :=
    ⟨by decide, by decide, by decide, by decide⟩
  have hbare : '.' ∉ "carts".toList := by decide
  have hdotted := (columnsOf?_resolved shop "a.orders").1 _ hsplits
  have hsearch {name : String} (hname : TableName.parse? name = none) :
      shop.columnsOf? name =
        ("main" :: ["b", "a"] ++ ["Zoo", "a", "b", "main", "zoo"]).findSome?
          fun schema => shop.columnsIn? schema name := by
    rw [columnsOf?_of_parse?_eq_none shop hname, ← schemas_shop]
    rfl
  have hlogs : shop.columnsOf? "logs" = some [keyOf "Zoo" "logs"] := by
    rw [hsearch (by decide +kernel)]
    decide +kernel
  have hcarts : shop.columnsOf? "carts" = none := by
    rw [hsearch (by decide +kernel)]
    decide +kernel
  refine ⟨?_, by decide +kernel, by decide +kernel, hlogs, by decide +kernel,
    hcarts,
    ((columnsOf?_resolved shop "carts").2.2.1 hbare).1 hcarts⟩
  rw [hdotted]
  decide +kernel

end ResolutionWitness

end SchemaCache

end SchemaScope
