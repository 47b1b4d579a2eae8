import SchemaScope.Completion
import SchemaScope.Proofs.SchemaCache

/-!
What an editor is offered while a name is being typed. Main statements: typing
on only takes completions away, and a table that is offered leads, with a dot
behind its label, to the columns of that table and of no other.
-/

namespace SchemaScope

namespace Text

theorem beginsWith_iff {s start : String} :
    beginsWith s start = true ↔ start.toList <+: s.toList :=
  List.isPrefixOf_iff_prefix

theorem beginsWith_empty (s : String) : beginsWith s "" = true :=
  beginsWith_iff.2 List.nil_prefix

/-- What follows the last dot has no dot. -/
theorem splitQualifier_append {part : String} (hpart : '.' ∉ part.toList)
    (qualifier : String) :
    splitQualifier (qualifier ++ "." ++ part) = some (qualifier, part) :=
  splitQualifier_eq_some_iff.2 ⟨rfl, hpart⟩

theorem splitQualifier_of_notMem {s : String} (h : '.' ∉ s.toList) :
    splitQualifier s = none := by
  rw [splitQualifier, splitLastDot_eq_none_iff.2 h, Option.map_none]

end Text

namespace TableName

/-- A name of two parts is known by its text if the table has no dot. -/
theorem display_injOn {n m : TableName} (hn : '.' ∉ n.table.toList)
    (hm : '.' ∉ m.table.toList) (h : n.display = m.display) : n = m := by
  have hsplit : Text.splitQualifier n.display = some (n.schema, n.table) :=
    Text.splitQualifier_append hn n.schema
  rw [h, display, Text.splitQualifier_append hm m.schema] at hsplit
  obtain ⟨schema, table⟩ := n
  cases hsplit
  rfl

end TableName

/-- The names of a topology can be written with a dot between them and read
again: none is empty, and no table has a dot in its name. -/
structure Topology.Addressable (t : Topology) : Prop where
  schema_ne : ∀ schema ∈ t.schemas, schema ≠ ""
  table_ne : ∀ n ∈ t.allTables, n.table ≠ ""
  dot_notMem : ∀ n ∈ t.allTables, '.' ∉ n.table.toList

theorem Topology.mem_schemas_of_mem_allTables {t : Topology} {n : TableName}
    (hn : n ∈ t.allTables) : n.schema ∈ t.schemas := by
  rw [allTables_eq] at hn
  obtain ⟨schema, hschema, hn⟩ := List.mem_flatMap.1 hn
  obtain ⟨table, _, rfl⟩ := List.mem_map.1 hn
  exact hschema

theorem Topology.Addressable.splits {t : Topology} (h : t.Addressable)
    {n : TableName} (hn : n ∈ t.allTables) : n.Splits n.display :=
  ⟨h.schema_ne _ (mem_schemas_of_mem_allTables hn), h.table_ne n hn,
    h.dot_notMem n hn, rfl⟩

namespace Completion

/-- What a completion of a name without a dot stands for. -/
inductive Subject where
  | schema (name : String)
  | table (n : TableName)

namespace Subject

/-- A subject is offered for the beginnings of its name, a table also for those
of its schema. -/
def Begins (start : String) : Subject → Prop
  | schema name => start.toList <+: name.toList
  | table n =>
    start.toList <+: n.table.toList ∨ start.toList <+: n.schema.toList

instance (start : String) : DecidablePred (Begins start)
  | schema name => inferInstanceAs (Decidable (start.toList <+: name.toList))
  | table n => inferInstanceAs (Decidable
      (start.toList <+: n.table.toList ∨ start.toList <+: n.schema.toList))

/-- A subject as a completion. -/
def completion (cache : SchemaCache) : Subject → Completion
  | schema name => ofSchema name
  | table n => ofTable (tableLabel cache n)

theorem begins_empty (subject : Subject) : subject.Begins "" := by
  cases subject with
  | schema name => exact List.nil_prefix
  | table n => exact .inl List.nil_prefix

end Subject

/-- Everything that a cache has to offer: the schemas in order, and then all
tables in order. -/
def subjects (cache : SchemaCache) : List Subject :=
  cache.topology.schemas.map .schema ++ cache.topology.allTables.map .table

variable (cache : SchemaCache)

theorem subjects_nodup : (subjects cache).Nodup := by
  refine List.nodup_append.2 ⟨?_, ?_, ?_⟩
  · exact cache.topology.tables.distinct.map fun _ _ heq =>
      Subject.schema.inj heq
  · exact cache.topology.allTables_nodup.map fun _ _ heq =>
      Subject.table.inj heq
  · intro subject hschema other htable heq
    obtain ⟨name, _, rfl⟩ := List.mem_map.1 hschema
    obtain ⟨n, _, rfl⟩ := List.mem_map.1 htable
    cases heq

theorem complete_append_dot {start : String} (hstart : '.' ∉ start.toList)
    (qualifier : String) :
    complete cache (qualifier ++ "." ++ start) =
      qualified cache qualifier start := by
  rw [complete, Text.splitQualifier_append hstart]

theorem complete_dot (qualifier : String) :
    complete cache (qualifier ++ ".") = qualified cache qualifier "" := by
  have hempty : '.' ∉ "".toList := by simp
  rw [← complete_append_dot cache hempty, String.append_empty]

theorem complete_of_notMem {start : String} (hstart : '.' ∉ start.toList) :
    complete cache start = bare cache start := by
  rw [complete, Text.splitQualifier_of_notMem hstart]

/-- Behind a dot, a completion is offered for the beginnings of its label. -/
theorem qualified_eq_filter (qualifier start : String) :
    qualified cache qualifier start =
      (qualified cache qualifier "").filter fun item =>
        start.toList <+: item.label.toList := by
  have hstart (s : String) :
      Text.beginsWith s start = decide (start.toList <+: s.toList) :=
    Bool.eq_iff_iff.2 (by rw [Text.beginsWith_iff, decide_eq_true_iff])
  simp only [qualified, Text.beginsWith_empty, hstart, List.filter_true,
    List.filter_append, List.filter_map]
  rfl

/-- Without a dot, a subject is offered for the beginnings of its names. -/
theorem bare_eq_map_filter (start : String) :
    bare cache start =
      ((subjects cache).filter (·.Begins start)).map
        (Subject.completion cache) := by
  have hschema (name : String) :
      Text.beginsWith name start =
        decide ((Subject.schema name).Begins start) :=
    Bool.eq_iff_iff.2 (by
      rw [Text.beginsWith_iff, decide_eq_true_iff, Subject.Begins])
  have htable (n : TableName) :
      (Text.beginsWith n.table start || Text.beginsWith n.schema start) =
        decide ((Subject.table n).Begins start) :=
    Bool.eq_iff_iff.2 (by
      rw [Bool.or_eq_true, Text.beginsWith_iff, Text.beginsWith_iff,
        decide_eq_true_iff, Subject.Begins])
  simp only [bare, htable]
  simp only [hschema, subjects, List.filter_append, List.filter_map,
    List.map_append, List.map_map]
  rfl

theorem bare_empty :
    bare cache "" = (subjects cache).map (Subject.completion cache) := by
  rw [bare_eq_map_filter, List.filter_eq_self.2 fun subject _ =>
    decide_eq_true subject.begins_empty]

/-- A longer text is offered nothing that a shorter one was not offered. -/
theorem complete_append_sublist {start more : String}
    (hstart : '.' ∉ start.toList) (hmore : '.' ∉ more.toList) :
    (complete cache (start ++ more)).Sublist (complete cache start) := by
  have hdot : '.' ∉ (start ++ more).toList := by
    simpa [not_or] using And.intro hstart hmore
  rw [complete_of_notMem cache hdot, complete_of_notMem cache hstart,
    bare_eq_map_filter, bare_eq_map_filter]
  refine List.Sublist.map _ (List.monotone_filter_right _ fun subject h => ?_)
  have hprefix : start.toList <+: (start ++ more).toList := by simp
  rw [decide_eq_true_iff] at h ⊢
  cases subject with
  | schema name => exact hprefix.trans h
  | table n => exact h.imp hprefix.trans hprefix.trans

/-- While the part behind the last dot is typed, the completions are those that
were offered behind the dot, restricted to the labels that begin with it. While
a name without a dot is typed, they are those that are offered for nothing,
restricted to the schemas whose name, and to the tables whose name or schema,
begins with it. For nothing every schema is offered once and then every table
once, in order. -/
theorem complete_typed_on (cache : SchemaCache) {typed : String}
    (htyped : '.' ∉ typed.toList) :
    (∀ qualifier, complete cache (qualifier ++ "." ++ typed) =
      (complete cache (qualifier ++ ".")).filter fun item =>
        typed.toList <+: item.label.toList) ∧
    complete cache typed =
      ((subjects cache).filter (·.Begins typed)).map
        (Subject.completion cache) ∧
    complete cache "" = (subjects cache).map (Subject.completion cache) ∧
    (subjects cache).Nodup := by
  refine ⟨fun qualifier => ?_, ?_, ?_, subjects_nodup cache⟩
  · rw [complete_append_dot cache htyped, complete_dot, qualified_eq_filter]
  · rw [complete_of_notMem cache htyped, bare_eq_map_filter]
  · rw [complete_of_notMem cache (by simp), bare_empty]

namespace OfferWitness

/-- A column of a table of clients, whose type tells the schema. -/
def clientsOf (schema name : String) : Column :=
  { id := ⟨schema, "clients", name⟩, dataType := schema, key := "PRI" }

/-- Three schemas with tables of one name; the name of one of them has a dot,
and the columns are filed in no particular order. -/
def shop : SchemaCache where
  generation := 1
  topology := .ofAnswers none [] "public" ["public", "extra"]
    [("my.db", ["clients", "exports"]), ("public", ["orders", "clients"]),
      ("extra", ["clients"])]
  columns := .ofColumns
    [clientsOf "extra" "id", clientsOf "my.db" "id", clientsOf "public" "id",
      clientsOf "my.db" "nick"]

/-- Behind the dot of a schema those of its tables are left whose names begin
with what is typed. Without a dot a schema comes with all its tables, and a
table comes by itself. -/
theorem complete_typed_on_shop :
    '.' ∉ "ex".toList ∧
      complete shop ("my.db" ++ "." ++ "ex") = [ofTable "exports"] ∧
      complete shop "ex" =
        [ofSchema "extra", ofTable "extra.clients", ofTable "my.db.exports"] ∧
      (complete shop "").length = 8 := by
  have htyped : '.' ∉ "ex".toList := by decide
  obtain ⟨hdotted, hbare, hempty, _⟩ := complete_typed_on shop htyped
  refine ⟨htyped, ?_, ?_, ?_⟩
  · rw [hdotted]
    decide +kernel
  · rw [hbare]
    decide +kernel
  · rw [hempty]
    decide +kernel

end OfferWitness

/-! Labels of tables, and what stands behind them. -/

/-- A completion is the one of a table of the topology. -/
def StandsFor (item : Completion) (n : TableName) : Prop :=
  n ∈ cache.topology.allTables ∧ item = ofTable (tableLabel cache n)

variable {cache}

theorem tableLabel_injOn (h : cache.topology.Addressable) {n m : TableName}
    (hn : n ∈ cache.topology.allTables) (hm : m ∈ cache.topology.allTables)
    (heq : tableLabel cache n = tableLabel cache m) : n = m := by
  have hdotted (k : TableName) : '.' ∈ k.display.toList := by
    simp [TableName.display]
  by_cases hdefault : n.schema = cache.topology.defaultSchema
  · by_cases hother : m.schema = cache.topology.defaultSchema
    · rw [tableLabel, if_pos hdefault, tableLabel, if_pos hother] at heq
      obtain ⟨schema, table⟩ := n
      rw [TableName.mk.injEq]
      exact ⟨hdefault.trans hother.symm, heq⟩
    · rw [tableLabel, if_pos hdefault, tableLabel, if_neg hother] at heq
      exact absurd (heq ▸ hdotted m) (h.dot_notMem n hn)
  · by_cases hother : m.schema = cache.topology.defaultSchema
    · rw [tableLabel, if_neg hdefault, tableLabel, if_pos hother] at heq
      exact absurd (heq ▸ hdotted n) (h.dot_notMem m hm)
    · rw [tableLabel, if_neg hdefault, tableLabel, if_neg hother] at heq
      exact TableName.display_injOn (h.dot_notMem n hn) (h.dot_notMem m hm) heq

/-- The label of a table means that table wherever it has columns, however many
schemas have a table of the same name. -/
theorem columnsOf?_tableLabel (h : cache.topology.Addressable) {n : TableName}
    (hn : n ∈ cache.topology.allTables) {columns : List Column}
    (hcolumns : cache.columnsIn? n.schema n.table = some columns) :
    cache.columnsOf? (tableLabel cache n) = some columns := by
  by_cases hdefault : n.schema = cache.topology.defaultSchema
  · have hbare : ∀ m : TableName, ¬m.Splits n.table := fun m hm =>
      h.dot_notMem n hn hm.mem_dot
    rw [tableLabel, if_pos hdefault, cache.columnsOf?_of_not_splits hbare,
      SchemaCache.searchOrder, List.cons_append, List.findSome?_cons,
      ← hdefault, hcolumns]
  · rw [tableLabel, if_neg hdefault, cache.columnsOf?_of_splits (h.splits hn),
      hcolumns]

/-- The tables that are offered for a name without a dot. -/
theorem tables_complete {start : String} (hstart : '.' ∉ start.toList) :
    (complete cache start).filter (·.kind = .table) =
      (cache.topology.allTables.filter fun n =>
        (Subject.table n).Begins start).map fun n =>
          ofTable (tableLabel cache n) := by
  rw [complete_of_notMem cache hstart, bare_eq_map_filter, subjects,
    List.filter_append, List.map_append, List.filter_append]
  have hschemas : (((cache.topology.schemas.map Subject.schema).filter
      (·.Begins start)).map (Subject.completion cache)).filter
        (·.kind = .table) = [] := by
    rw [List.filter_eq_nil_iff]
    intro item hitem
    obtain ⟨subject, hsubject, rfl⟩ := List.mem_map.1 hitem
    obtain ⟨name, _, rfl⟩ := List.mem_map.1 (List.mem_filter.1 hsubject).1
    simp [Subject.completion, ofSchema]
  have htables : ∀ item ∈ ((cache.topology.allTables.map Subject.table).filter
      (·.Begins start)).map (Subject.completion cache),
        decide (item.kind = .table) = true := by
    intro item hitem
    obtain ⟨subject, hsubject, rfl⟩ := List.mem_map.1 hitem
    obtain ⟨n, _, rfl⟩ := List.mem_map.1 (List.mem_filter.1 hsubject).1
    rfl
  rw [hschemas, List.nil_append, List.filter_eq_self.2 htables, List.filter_map,
    List.map_map]
  rfl

/-- The columns that are offered behind a dot. -/
theorem columns_complete_dot (qualifier : String) :
    (complete cache (qualifier ++ ".")).filter (·.kind = .column) =
      ((cache.columnsOf? qualifier).getD []).map ofColumn := by
  simp [complete_dot, qualified, Text.beginsWith_empty, ofTable, ofColumn,
    List.filter_map, Function.comp_def]

/-- The tables that are offered for a name without a dot have labels that tell
them apart. With a dot behind its label, a table leads to its own columns, one
by one and in order, and to no column of a table of the same name in another
schema. -/
theorem tables_lead_to_columns (h : cache.topology.Addressable) {start : String}
    (hstart : '.' ∉ start.toList) :
    (((complete cache start).filter (·.kind = .table)).map label).Nodup ∧
    ∀ item ∈ complete cache start, item.kind = .table →
      (∃! n, StandsFor cache item n) ∧
      ∀ n columns, StandsFor cache item n →
        cache.columnsIn? n.schema n.table = some columns →
          (complete cache (item.label ++ ".")).filter (·.kind = .column) =
            columns.map (fun c => ⟨c.name, .column, c.summary⟩) ∧
          ∀ given, cache.columns = .ofColumns given →
            columns = ColumnIndex.columnsFor n given := by
  refine ⟨?_, fun item hitem hkind => ⟨?_, ?_⟩⟩
  · rw [tables_complete hstart, List.map_map]
    refine (cache.topology.allTables_nodup.filter _).map_on ?_
    intro n hn m hm heq
    exact tableLabel_injOn h (List.mem_filter.1 hn).1
      (List.mem_filter.1 hm).1 heq
  · have htable : item ∈ (complete cache start).filter (·.kind = .table) :=
      List.mem_filter.2 ⟨hitem, decide_eq_true hkind⟩
    rw [tables_complete hstart] at htable
    obtain ⟨n, hn, rfl⟩ := List.mem_map.1 htable
    refine ⟨n, ⟨(List.mem_filter.1 hn).1, rfl⟩, ?_⟩
    rintro m ⟨hm, heq⟩
    exact tableLabel_injOn h hm (List.mem_filter.1 hn).1
      (Completion.mk.inj heq).1.symm
  · rintro n columns ⟨hn, rfl⟩ hcolumns
    refine ⟨?_, fun given hgiven => cache.eq_columnsFor hgiven hcolumns⟩
    rw [columns_complete_dot, ofTable, columnsOf?_tableLabel h hn hcolumns]
    rfl

namespace OfferWitness

theorem addressable_shop : shop.topology.Addressable := by
  constructor
  · decide +kernel
  · decide +kernel
  · decide +kernel

/-- Each of three tables of one name leads to its own columns. -/
theorem tables_lead_to_columns_shop :
    shop.topology.Addressable ∧ '.' ∉ "cl".toList ∧
      ((complete shop "cl").filter (·.kind = .table)).map label =
        ["clients", "extra.clients", "my.db.clients"] ∧
      (complete shop ("clients" ++ ".")).filter (·.kind = .column) =
        [⟨"id", .column, "`public` PRI"⟩] ∧
      (complete shop ("my.db.clients" ++ ".")).filter (·.kind = .column) =
        [⟨"id", .column, "`my.db` PRI"⟩, ⟨"nick", .column, "`my.db` PRI"⟩] := by
  have hstart : '.' ∉ "cl".toList := by decide
  have hlead := (tables_lead_to_columns addressable_shop hstart).2
  refine ⟨addressable_shop, hstart, by decide +kernel, ?_, ?_⟩
  · exact ((hlead (ofTable "clients") (by decide +kernel) rfl).2
      ⟨"public", "clients"⟩ [clientsOf "public" "id"]
      ⟨by decide +kernel, by decide +kernel⟩ (by decide +kernel)).1
  · exact ((hlead (ofTable "my.db.clients") (by decide +kernel) rfl).2
      ⟨"my.db", "clients"⟩ [clientsOf "my.db" "id", clientsOf "my.db" "nick"]
      ⟨by decide +kernel, by decide +kernel⟩ (by decide +kernel)).1

end OfferWitness

end Completion

end SchemaScope
