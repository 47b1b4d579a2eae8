import SchemaScope.Proofs.ForeignKey.Pairs
import SchemaScope.Proofs.OrderedMap

/-!
The foreign-key index files every relation under the schema that it is given
with and the table of its first pair. Main statement: a table has in the index
the relations that were given for it, in that order, and all relations are
counted; if the relations of a schema are grouped from rows, those of a table
have together the pairs of the rows of that table.
-/

namespace SchemaScope

namespace Relation

/-- The first pair of a relation has its column in a table. -/
def startsIn (table : String) (relation : Relation) : Bool :=
  relation.pairs.head?.any (·.column.table = table)

/-- All pairs of a relation have their columns in one table. -/
def OneTable (relation : Relation) : Prop :=
  ∀ p ∈ relation.pairs, ∀ q ∈ relation.pairs,
    p.column.table = q.column.table

theorem filter_pairs_of_oneTable {relation : Relation}
    (h : relation.OneTable) (table : String) :
    relation.pairs.filter (·.column.table = table) =
      if relation.startsIn table then relation.pairs else [] := by
  obtain ⟨pairs⟩ := relation
  cases pairs with
  | nil => simp
  | cons first rest =>
      have hfirst : ∀ pair ∈ first :: rest,
          pair.column.table = first.column.table :=
        fun pair hpair => h pair hpair first List.mem_cons_self
      by_cases htable : first.column.table = table
      · have hall : (first :: rest).filter (·.column.table = table) =
            first :: rest := by
          refine List.filter_eq_self.2 fun pair hpair => ?_
          simpa using (hfirst pair hpair).trans htable
        simp [startsIn, htable, hall]
      · have hnone : (first :: rest).filter (·.column.table = table) = [] := by
          refine List.filter_eq_nil_iff.2 fun pair hpair => ?_
          rw [hfirst pair hpair]
          simpa using htable
        simp [startsIn, htable, hnone]

/-- To choose relations by their first pairs is to choose pairs, where each
relation has one table. -/
theorem flatMap_pairs_filter_startsIn {relations : List Relation}
    (h : ∀ relation ∈ relations, relation.OneTable) (table : String) :
    (relations.filter (startsIn table)).flatMap pairs =
      (relations.flatMap pairs).filter (·.column.table = table) := by
  induction relations with
  | nil => rfl
  | cons relation rest ih =>
      obtain ⟨hrelation, hrest⟩ := List.forall_mem_cons.1 h
      rw [List.flatMap_cons, List.filter_append, ← ih hrest,
        filter_pairs_of_oneTable hrelation]
      cases hstarts : relation.startsIn table with
      | true => simp [hstarts]
      | false => simp [hstarts]

/-- The rows of a run agree on their table. -/
theorem oneTable_of_mem_ofRows {schema : String} {rows : List ForeignKeyRow}
    {relation : Relation} (hmem : relation ∈ ofRows schema rows) :
    relation.OneTable := by
  rw [ofRows_eq] at hmem
  obtain ⟨run, hrun, rfl⟩ := List.mem_map.1 hmem
  have hkeys := (ForeignKeyRow.runs_splitBy rows).key_eq run hrun
  intro p hp q hq
  obtain ⟨a, ha, rfl⟩ := List.mem_map.1 hp
  obtain ⟨b, hb, rfl⟩ := List.mem_map.1 hq
  exact congrArg Prod.snd (hkeys a ha b hb)

theorem flatMap_pairs_ofRows (schema : String) (rows : List ForeignKeyRow) :
    (ofRows schema rows).flatMap pairs = rows.map (·.pair schema) := by
  rw [ofRows_eq, flatMap_pairs_ofRun,
    (ForeignKeyRow.runs_splitBy rows).flatten_eq]

/-- However the rows of a table are spread over relations, the pairs of these
are those of the rows. -/
theorem flatMap_pairs_ofRows_startsIn (schema table : String)
    (rows : List ForeignKeyRow) :
    ((ofRows schema rows).filter (startsIn table)).flatMap pairs =
      (rows.filter (·.table = table)).map (·.pair schema) := by
  rw [flatMap_pairs_filter_startsIn fun _ => oneTable_of_mem_ofRows,
    flatMap_pairs_ofRows, List.filter_map]
  rfl

end Relation

namespace ForeignKeyIndex

/-- The relations that are given for a table of a schema, out of several lists
that are each given with a schema. -/
def relationsFor (schema table : String)
    (described : List (String × List Relation)) : List Relation :=
  ((described.filter (·.1 = schema)).flatMap Prod.snd).filter
    (Relation.startsIn table)

theorem relationsFor_append (schema table : String)
    (first last : List (String × List Relation)) :
    relationsFor schema table (first ++ last) =
      relationsFor schema table first ++ relationsFor schema table last := by
  simp [relationsFor]

theorem relationsFor_singleton (schema table name : String)
    (relations : List Relation) :
    relationsFor schema table [(name, relations)] =
      if schema = name then relations.filter (Relation.startsIn table)
      else [] := by
  by_cases hname : schema = name
  · simp [relationsFor, hname]
  · simp [relationsFor, hname, Ne.symm hname]

/-- The relations of a list may as well be given one after the other. -/
theorem relationsFor_cons (schema table name : String) (relation : Relation)
    (rest : List Relation) :
    relationsFor schema table [(name, relation :: rest)] =
      relationsFor schema table ([(name, [relation])] ++ [(name, rest)]) := by
  rw [relationsFor_append, relationsFor_singleton, relationsFor_singleton,
    relationsFor_singleton, ← List.singleton_append, List.filter_append]
  split
  · rfl
  · rfl

theorem relationsFor_of_head? (schema table name : String)
    {relation : Relation} {pair : ColumnPair}
    (hpair : relation.pairs.head? = some pair) :
    relationsFor schema table [(name, [relation])] =
      if schema = name ∧ table = pair.column.table then [relation] else [] := by
  have hstarts : relation.startsIn table =
      decide (table = pair.column.table) := by
    simp [Relation.startsIn, hpair, eq_comm]
  rw [relationsFor_singleton, List.filter_singleton, hstarts]
  by_cases hname : schema = name
  · simp [hname]
  · simp [hname]

/-- What one index has more than another: every table has the relations that
are given for it, behind those that it had before, and each of them counts. -/
structure Extends (later earlier : ForeignKeyIndex)
    (described : List (String × List Relation)) : Prop where
  get_eq : ∀ schema table, later.get schema table =
    earlier.get schema table ++ relationsFor schema table described
  relationCount_eq : later.relationCount =
    earlier.relationCount + (described.flatMap Prod.snd).length

section Filing

variable {index middle later : ForeignKeyIndex} {name : String}

theorem extends_refl (index : ForeignKeyIndex) : index.Extends index [] := by
  constructor
  case get_eq =>
    intro schema table
    exact (List.append_nil _).symm
  case relationCount_eq => rfl

theorem Extends.trans {first last : List (String × List Relation)}
    (hmiddle : middle.Extends index first)
    (hlater : later.Extends middle last) :
    later.Extends index (first ++ last) := by
  constructor
  case get_eq =>
    intro schema table
    rw [hlater.get_eq, hmiddle.get_eq, relationsFor_append, List.append_assoc]
  case relationCount_eq =>
    rw [hlater.relationCount_eq, hmiddle.relationCount_eq,
      List.flatMap_append, List.length_append, Nat.add_assoc]

/-- A relation that is added to those of its table is counted once. -/
theorem foldr_length_updateEntry (n : TableName) (relation : Relation)
    (entries : List (TableName × List Relation)) :
    (OrderedMap.updateEntry n (fun known => known.getD [] ++ [relation])
        entries).foldr (fun e count => e.2.length + count) 0 =
      entries.foldr (fun e count => e.2.length + count) 0 + 1 := by
  induction entries with
  | nil => rfl
  | cons head rest ih =>
      by_cases hkey : head.1 = n
      · simp only [OrderedMap.updateEntry, if_pos hkey, List.foldr_cons,
          Option.getD_some, List.length_append, List.length_singleton]
        omega
      · simp only [OrderedMap.updateEntry, if_neg hkey, List.foldr_cons, ih]
        omega

theorem extends_insert? {relation : Relation}
    (h : insert? name index relation = some later) :
    later.Extends index [(name, [relation])] := by
  obtain ⟨n, hn, rfl⟩ := Option.map_eq_some_iff.1 h
  obtain ⟨pair, hpair, rfl⟩ := Option.map_eq_some_iff.1 hn
  constructor
  case get_eq =>
    intro schema table
    rw [relationsFor_of_head? schema table name hpair, get, get,
      OrderedMap.get?_update]
    by_cases hkey : schema = name ∧ table = pair.column.table
    · obtain ⟨rfl, rfl⟩ := hkey
      simp [TableName.ofColumn]
    · simp [TableName.ofColumn, hkey]
  case relationCount_eq =>
    exact foldr_length_updateEntry _ relation index.tables.entries

theorem extends_insertAll? {relations : List Relation}
    (h : index.insertAll? name relations = some later) :
    later.Extends index [(name, relations)] := by
  induction relations generalizing index with
  | nil =>
      cases h
      constructor
      case get_eq =>
        intro schema table
        simp [relationsFor_singleton]
      case relationCount_eq => rfl
  | cons relation rest ih =>
      rw [insertAll?, List.foldlM_cons] at h
      obtain ⟨middle, hmiddle, hrest⟩ := Option.bind_eq_some_iff.1 h
      -- The relation and the rest are two lists here, and one in the goal.
      have hboth := (extends_insert? hmiddle).trans (ih hrest)
      constructor
      case get_eq =>
        intro schema table
        rw [relationsFor_cons]
        exact hboth.get_eq schema table
      case relationCount_eq =>
        rw [hboth.relationCount_eq]
        simp [Nat.add_comm]

theorem extends_insertSchemas? {described : List (String × List Relation)}
    (h : index.insertSchemas? described = some later) :
    later.Extends index described := by
  induction described generalizing index with
  | nil =>
      cases h
      exact extends_refl _
  | cons part rest ih =>
      rw [insertSchemas?, List.foldlM_cons] at h
      obtain ⟨middle, hmiddle, hrest⟩ := Option.bind_eq_some_iff.1 h
      exact (extends_insertAll? hmiddle).trans (ih hrest)

/-- Relations that have pairs can be filed, whatever there is in the index. -/
theorem exists_insertSchemas?_of_pairs
    {described : List (String × List Relation)}
    (h : ∀ part ∈ described, ∀ relation ∈ part.2, relation.pairs ≠ [])
    (index : ForeignKeyIndex) :
    ∃ filed, index.insertSchemas? described = some filed := by
  induction described generalizing index with
  | nil => exact ⟨index, rfl⟩
  | cons part rest ih =>
      obtain ⟨hpart, hrest⟩ := List.forall_mem_cons.1 h
      obtain ⟨next, hnext⟩ := exists_insertAll? part.1 hpart index
      obtain ⟨filed, hfiled⟩ := ih hrest next
      refine ⟨filed, ?_⟩
      rw [insertSchemas?, List.foldlM_cons, hnext]
      exact hfiled

end Filing

/-- Relations that have pairs are filed, list after list: a table has those
that were given for it, in that order, and all of them are counted. Where the
relations of a schema are grouped from rows, a table has the pairs of its rows
in the order of the rows. -/
theorem insertSchemas?_files {described : List (String × List Relation)}
    (h : ∀ part ∈ described, ∀ relation ∈ part.2, relation.pairs ≠ [])
    (schema : String) (rows : List ForeignKeyRow) :
    (∃ index, empty.insertSchemas? described = some index ∧
        (∀ schema table,
          index.get schema table = relationsFor schema table described) ∧
        index.relationCount = (described.flatMap Prod.snd).length) ∧
      ∃ index, empty.insertAll? schema (Relation.ofRows schema rows) =
          some index ∧
        ∀ table, (index.get schema table).flatMap Relation.pairs =
          (rows.filter (·.table = table)).map (·.pair schema) := by
  constructor
  · obtain ⟨index, hindex⟩ := exists_insertSchemas?_of_pairs h empty
    have hextends := extends_insertSchemas? hindex
    refine ⟨index, hindex, hextends.get_eq, ?_⟩
    rw [hextends.relationCount_eq]
    exact Nat.zero_add _
  · obtain ⟨index, hindex⟩ := exists_insertAll? schema
      (fun _ => Relation.pairs_ne_nil_of_mem_ofRows) empty
    refine ⟨index, hindex, fun table => ?_⟩
    have hget : index.get schema table =
        (Relation.ofRows schema rows).filter (Relation.startsIn table) := by
      rw [(extends_insertAll? hindex).get_eq, relationsFor_singleton,
        if_pos rfl]
      rfl
    rw [hget, Relation.flatMap_pairs_ofRows_startsIn]

namespace FilingWitness

/-- Orders point at customers. -/
def toCustomers : Relation :=
  .single ⟨⟨"main", "orders", "customer"⟩, ⟨"main", "customers", "id"⟩⟩

/-- Orders point at products by two columns. -/
def toProducts : Relation :=
  (Relation.single
    ⟨⟨"main", "orders", "product"⟩, ⟨"main", "products", "name"⟩⟩).push
      ⟨⟨"main", "orders", "size"⟩, ⟨"main", "products", "size"⟩⟩

/-- Returns point at orders. -/
def toOrders : Relation :=
  .single ⟨⟨"main", "returns", "order"⟩, ⟨"main", "orders", "id"⟩⟩

/-- One schema is described twice, and another one in between. -/
def described : List (String × List Relation) :=
  [("main", [toCustomers, toOrders]), ("archive", [toCustomers]),
    ("main", [toProducts])]

/-- The rows of two tables in turn. -/
def rows : List ForeignKeyRow :=
  [⟨"0", "orders", "product", "products", "name", none⟩,
    ⟨"0", "returns", "order", "orders", "id", none⟩,
    ⟨"0", "orders", "size", "products", "size", none⟩]

/-- The schema that is described twice has the foreign keys of both times, and
orders have the pairs of their two rows, with a row of returns in between. -/
theorem insertSchemas?_files_shop :
    (∀ part ∈ described, ∀ relation ∈ part.2, relation.pairs ≠ []) ∧
      (∃ index, empty.insertSchemas? described = some index ∧
        index.get "main" "orders" = [toCustomers, toProducts] ∧
        index.get "archive" "orders" = [toCustomers] ∧
        index.get "archive" "returns" = [] ∧
        index.relationCount = 4) ∧
      ∃ index, empty.insertAll? "main" (Relation.ofRows "main" rows) =
          some index ∧
        (index.get "main" "orders").flatMap Relation.pairs =
          toProducts.pairs := by
  have hpairs : ∀ part ∈ described, ∀ relation ∈ part.2,
      relation.pairs ≠ [] := by
    decide
  obtain ⟨⟨index, hindex, hget, hcount⟩, grouped, hgrouped, htable⟩ :=
    insertSchemas?_files hpairs "main" rows
  refine ⟨hpairs, ⟨index, hindex, ?_, ?_, ?_, hcount⟩, grouped, hgrouped, ?_⟩
  · exact (hget _ _).trans (by decide)
  · exact (hget _ _).trans (by decide)
  · exact (hget _ _).trans (by decide)
  · exact (htable _).trans (by decide)

end FilingWitness

end ForeignKeyIndex

end SchemaScope
