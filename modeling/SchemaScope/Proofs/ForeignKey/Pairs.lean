import SchemaScope.Exchange.Schema
import SchemaScope.Proofs.Fallible
import SchemaScope.Proofs.ForeignKey.Grouping
import SchemaScope.Proofs.Inquiry
import SchemaScope.Proofs.Json.Record

/-!
Where relations come from: they are put together pair by pair, grouped from
rows, or read from JSON. A relation is of use only if it has a pair. Main
statement: all relations have one, and can be filed under any schema, if and
only if no JSON is read that lists no pairs.
-/

namespace SchemaScope

namespace Relation

/-- What the JSON form of a relation lists as its pairs. -/
def listed? : Json → Option (List Json)
  | .object fields =>
      match Json.lookup fields "pairs" with
      | some (.array items) => some items
      | _ => none
  | .array [.array items] => some items
  | _ => none

/-- Relations that can be obtained where some JSON values are there to be
read. -/
inductive Obtained (Given : Json → Prop) : Relation → Prop where
  | single (pair : ColumnPair) : Obtained Given (single pair)
  | push {relation : Relation} (h : Obtained Given relation)
      (pair : ColumnPair) : Obtained Given (relation.push pair)
  | ofRows (schema : String) {rows : List ForeignKeyRow} {relation : Relation}
      (hmem : relation ∈ ofRows schema rows) : Obtained Given relation
  | ofCursor {ε : Type} (schema : String)
      {items : List (Except ε ForeignKeyRow)} {relations : List Relation}
      {relation : Relation} (hread : (ofCursor schema items).1 = .ok relations)
      (hmem : relation ∈ relations) : Obtained Given relation
  | ofJson {j : Json} {relation : Relation} (hgiven : Given j)
      (hread : ofJson j = .ok relation) : Obtained Given relation

/-- A relation has a pair, and therefore a table at either end. -/
structure Usable (relation : Relation) : Prop where
  ne_nil : relation.pairs ≠ []
  table : ∃ n, relation.table? = some n
  referencedTable : ∃ n, relation.referencedTable? = some n

variable {Given : Json → Prop} {relation : Relation} {j : Json}

theorem usable_of_ne_nil (h : relation.pairs ≠ []) : relation.Usable := by
  have hhead := List.head?_eq_some_head h
  constructor
  · exact h
  · exact ⟨_, by rw [table?, hhead, Option.map_some]⟩
  · exact ⟨_, by rw [referencedTable?, hhead, Option.map_some]⟩

theorem pairs_ne_nil_of_mem_ofRows {schema : String}
    {rows : List ForeignKeyRow} (hmem : relation ∈ ofRows schema rows) :
    relation.pairs ≠ [] := by
  rw [ofRows_eq] at hmem
  obtain ⟨run, hrun, rfl⟩ := List.mem_map.1 hmem
  intro hnil
  exact List.ne_nil_of_mem_splitBy hrun (List.map_eq_nil_iff.1 hnil)

theorem listed?_eq_some_iff {items : List Json} :
    listed? j = some items ↔
      (∃ fields, j = .object fields ∧
        Json.lookup fields "pairs" = some (.array items)) ∨
        j = .array [.array items] := by
  constructor
  · intro h
    unfold listed? at h
    split at h
    · rename_i fields
      split at h
      · cases h
        exact .inl ⟨fields, rfl, by assumption⟩
      · cases h
    · cases h
      exact .inr rfl
    · cases h
  · rintro (⟨fields, rfl, hfield⟩ | rfl)
    · simp [listed?, hfield]
    · rfl

theorem take_pairs_eq_value_iff {source : Json.FieldSource} :
    mk <$> source.take 0 "pairs" (Json.toList ColumnPair.ofJson) =
        .value relation ↔
      ∃ items, source.get? 0 "pairs" = some (.array items) ∧
        items.mapM ColumnPair.ofJson = .ok relation.pairs := by
  simp only [Json.Taken.map_eq_value_iff, Json.FieldSource.take_eq_value_iff,
    Json.toList_eq_ok_iff]
  constructor
  · rintro ⟨pairs, ⟨_, hfield, items, rfl, hpairs⟩, rfl⟩
    exact ⟨items, hfield, hpairs⟩
  · rintro ⟨items, hfield, hpairs⟩
    exact ⟨relation.pairs, ⟨_, hfield, items, rfl, hpairs⟩, rfl⟩

/-- A relation is read from JSON that lists its pairs. -/
theorem ofJson_eq_ok_iff :
    ofJson j = .ok relation ↔ ∃ items, listed? j = some items ∧
      items.mapM ColumnPair.ofJson = .ok relation.pairs := by
  rw [ofJson, Json.toRecord_eq_ok_iff]
  simp only [take_pairs_eq_value_iff, Json.FieldSource.get?,
    listed?_eq_some_iff]
  constructor
  · rintro (⟨fields, rfl, items, hfield, hpairs⟩ |
      ⟨fields, rfl, hlength, items, hfield, hpairs⟩)
    · exact ⟨items, .inl ⟨fields, rfl, hfield⟩, hpairs⟩
    · rw [← List.head?_eq_getElem?] at hfield
      obtain ⟨rest, rfl⟩ := List.head?_eq_some_iff.1 hfield
      obtain rfl : rest = [] := by simpa using hlength
      exact ⟨items, .inr rfl, hpairs⟩
  · rintro ⟨items, ⟨fields, rfl, hfield⟩ | rfl, hpairs⟩
    · exact .inl ⟨fields, rfl, items, hfield, hpairs⟩
    · exact .inr ⟨_, rfl, by simp, items, rfl, hpairs⟩

/-- If all JSON that is read lists a pair, every relation has one. -/
theorem Obtained.pairs_ne_nil (hgiven : ∀ j, Given j → listed? j ≠ some [])
    (h : Obtained Given relation) : relation.pairs ≠ [] := by
  induction h with
  | single pair => simp [Relation.single]
  | push _ pair => simp [Relation.push]
  | ofRows schema hmem => exact pairs_ne_nil_of_mem_ofRows hmem
  | @ofCursor ε schema items relations relation hread hmem =>
      rcases exists_rows_of_cursor items with
        ⟨rows, rfl⟩ | ⟨rows, e, rest, rfl⟩
      · rw [ofCursor_ok] at hread
        cases hread
        exact pairs_ne_nil_of_mem_ofRows hmem
      · rw [Relation.ofCursor, readCursor_error] at hread
        cases hread
  | @ofJson j relation hj hread =>
      obtain ⟨items, hlisted, hpairs⟩ := ofJson_eq_ok_iff.1 hread
      have hresults := Fallible.forall₂_of_mapM_eq_ok hpairs
      intro hnil
      rw [hnil, List.forall₂_nil_right_iff] at hresults
      exact hgiven j hj (hresults ▸ hlisted)

/-- JSON that lists no pairs is read as a relation without any. -/
theorem obtained_of_listed?_eq_nil (hj : Given j)
    (hlisted : listed? j = some []) : Obtained Given ⟨[]⟩ :=
  .ofJson hj (ofJson_eq_ok_iff.2 ⟨[], hlisted, rfl⟩)

/-- All relations are of use if and only if no JSON is read that lists no
pairs, and under the same condition all lists of relations can be filed. -/
theorem obtained_usable_iff (Given : Json → Prop) :
    ((∀ relation, Obtained Given relation → relation.Usable) ↔
        ∀ j, Given j → listed? j ≠ some []) ∧
      ((∀ (index : ForeignKeyIndex) schema relations,
          (∀ relation ∈ relations, Obtained Given relation) →
            ∃ filed, index.insertAll? schema relations = some filed) ↔
        ∀ j, Given j → listed? j ≠ some []) := by
  refine ⟨⟨?_, ?_⟩, ⟨?_, ?_⟩⟩
  · intro husable j hj hlisted
    exact (husable _ (obtained_of_listed?_eq_nil hj hlisted)).ne_nil rfl
  · intro hgiven relation h
    exact usable_of_ne_nil (h.pairs_ne_nil hgiven)
  · intro hfiled j hj hlisted
    have hobtained : ∀ relation ∈ [⟨[]⟩], Obtained Given relation := by
      simpa using obtained_of_listed?_eq_nil hj hlisted
    obtain ⟨filed, hnone⟩ := hfiled .empty "" [⟨[]⟩] hobtained
    cases hnone
  · intro hgiven index schema relations h
    exact ForeignKeyIndex.exists_insertAll? schema
      (fun relation hmem => (h relation hmem).pairs_ne_nil hgiven) index

/-- An object without pairs is read, and the relation has no table and cannot
be filed. -/
theorem ofJson_without_pairs :
    ofJson (.object [("pairs", .array [])]) = .ok ⟨[]⟩ ∧
      table? ⟨[]⟩ = none ∧ referencedTable? ⟨[]⟩ = none ∧
      ForeignKeyIndex.empty.insertAll? "main" [⟨[]⟩] = none ∧
      ¬∀ relation, Obtained (fun _ => True) relation → relation.Usable := by
  refine ⟨rfl, rfl, rfl, rfl, fun husable => ?_⟩
  have hobtained : Obtained (fun _ => True) ⟨[]⟩ :=
    .ofJson (j := .object [("pairs", .array [])]) trivial rfl
  exact (husable _ hobtained).ne_nil rfl

end Relation

end SchemaScope
