import Mathlib.Data.List.Basic
import Mathlib.Data.List.Nodup
import SchemaScope.Proofs.OrderedMap
import SchemaScope.Topology

/-!
The topology that answers describe. Schemas stand in the order in which they are
first named, listed ones before those that only come with their tables; a schema
has all tables that are reported for it, in the order in which they are first
reported.
-/

namespace SchemaScope

namespace NameSet

theorem names_insert (set : NameSet) (name : String) :
    (set.insert name).names =
      if name ∈ set.names then set.names else set.names ++ [name] := by
  unfold insert
  split
  · rfl
  · rfl

/-- Of several names the first occurrence of each is kept. -/
theorem names_insertAll (set : NameSet) (names : List String) :
    (set.insertAll names).names = (set.names ++ names).eraseDups := by
  induction names generalizing set with
  | nil =>
      rw [List.append_nil, OrderedMap.eraseDups_of_nodup set.distinct]
      rfl
  | cons name rest ih =>
      have hcons : set.insertAll (name :: rest) =
          (set.insert name).insertAll rest := rfl
      rw [hcons, ih, names_insert, OrderedMap.eraseDups_add]

theorem insertAll_append (set : NameSet) (first last : List String) :
    set.insertAll (first ++ last) = (set.insertAll first).insertAll last :=
  List.foldl_append

end NameSet

/-- No table stands twice among those of several schemas. -/
theorem TableName.nodup_flatMap {schemas : List String}
    {tables : String → List String} (hschemas : schemas.Nodup)
    (htables : ∀ schema ∈ schemas, (tables schema).Nodup) :
    (schemas.flatMap fun schema =>
      (tables schema).map (TableName.mk schema)).Nodup := by
  refine List.nodup_flatMap.2 ⟨?_, ?_⟩
  · intro schema hschema
    refine List.Nodup.map ?_ (htables schema hschema)
    exact fun table table' heq => (TableName.mk.inj heq).2
  · refine hschemas.imp ?_
    intro schema schema' hne n hn hn'
    obtain ⟨_, _, rfl⟩ := List.mem_map.1 hn
    obtain ⟨_, _, heq⟩ := List.mem_map.1 hn'
    exact hne (TableName.mk.inj heq).1.symm

namespace Topology

/-- What is reported for one schema is taken together. -/
theorem foldl_report (reports : List (String × List String))
    (known : Option NameSet) :
    (reports.foldl (fun known report =>
        some ((known.getD .empty).insertAll report.2)) known).getD .empty =
      (known.getD .empty).insertAll (reports.flatMap Prod.snd) := by
  induction reports generalizing known with
  | nil => rfl
  | cons report rest ih =>
      rw [List.foldl_cons, ih, List.flatMap_cons, NameSet.insertAll_append]
      rfl

/-- A schema that is listed is reported without tables. -/
theorem merge_eq (schemas : List String)
    (tables : List (String × List String)) :
    merge schemas tables =
      (schemas.map (·, []) ++ tables).foldl
        (fun m (report : String × List String) => m.update report.1
          fun known => (known.getD .empty).insertAll report.2) .empty := by
  rw [List.foldl_append, List.foldl_map]
  rfl

theorem keys_merge (schemas : List String)
    (tables : List (String × List String)) :
    (merge schemas tables).keys =
      (schemas ++ tables.map Prod.fst).eraseDups := by
  rw [merge_eq, OrderedMap.keys_foldl_update, List.map_append, List.map_map]
  simp [OrderedMap.keys, OrderedMap.empty, Function.comp_def]

theorem names_merge (schemas : List String)
    (tables : List (String × List String)) (schema : String) :
    (((merge schemas tables).get? schema).getD .empty).names =
      ((tables.filter (·.1 = schema)).flatMap Prod.snd).eraseDups := by
  have hlisted : ((schemas.map (·, ([] : List String))).filter
      (·.1 = schema)).flatMap Prod.snd = [] := by
    simp [List.flatMap_eq_nil_iff]
  rw [merge_eq, OrderedMap.get?_foldl_update, foldl_report,
    NameSet.names_insertAll, List.filter_append, List.flatMap_append, hlisted]
  rfl

section

variable (currentDatabase : Option String) (databases : List String)
  (currentSchema : String) (schemas : List String)
  (tables : List (String × List String))

theorem schemas_ofAnswers :
    (ofAnswers currentDatabase databases currentSchema schemas tables).schemas =
      (schemas ++ tables.map Prod.fst).eraseDups :=
  keys_merge schemas tables

theorem tablesOf_ofAnswers (schema : String) :
    (ofAnswers currentDatabase databases currentSchema schemas
        tables).tablesOf schema =
      ((tables.filter (·.1 = schema)).flatMap Prod.snd).eraseDups :=
  names_merge schemas tables schema

end

theorem allTables_eq (t : Topology) :
    t.allTables = t.schemas.flatMap fun schema =>
      (t.tablesOf schema).map (⟨schema, ·⟩) := by
  rw [allTables, schemas, OrderedMap.keys, List.flatMap_map]
  refine List.flatMap_congr fun e he => ?_
  rw [tablesOf, OrderedMap.get?_of_mem he]
  rfl

theorem allTables_nodup (t : Topology) : t.allTables.Nodup := by
  rw [allTables_eq]
  refine TableName.nodup_flatMap t.tables.distinct fun schema _ => ?_
  exact ((t.tables.get? schema).getD .empty).distinct

/-- A schema that is not known has no tables. -/
theorem hasTable_iff {t : Topology} {schema table : String} :
    t.hasTable schema table = true ↔ ⟨schema, table⟩ ∈ t.allTables := by
  have hknown : table ∈ t.tablesOf schema → schema ∈ t.schemas := by
    intro htable
    rw [schemas, ← OrderedMap.isSome_get?_iff]
    cases hget : t.tables.get? schema with
    | some set => rfl
    | none => simp [tablesOf, hget, NameSet.empty] at htable
  rw [allTables_eq, hasTable]
  simpa using hknown

end Topology

end SchemaScope
