import Mathlib.Data.List.SplitBy
import SchemaScope.ForeignKey.Grouping

/-!
Grouping is splitting into runs. The single pass over the rows makes one
relation of each run of rows that belong to the same key. Main statement: the
runs are maximal, no row is lost, and a cursor is read up to its first error.
-/

namespace SchemaScope

namespace ForeignKeyRow

/-- What rows of one foreign key have in common. -/
def key (row : ForeignKeyRow) : String × String := (row.constraint, row.table)

theorem sameKey_iff {a b : ForeignKeyRow} :
    a.sameKey b = true ↔ a.key = b.key := by
  simp [sameKey, key]

/-- Rows cut into runs. Every row is in a run, the rows of a run have one key,
and where a run ends another key begins. -/
structure Runs (rows : List ForeignKeyRow) (runs : List (List ForeignKeyRow)) :
    Prop where
  flatten_eq : runs.flatten = rows
  ne_nil : ∀ run ∈ runs, run ≠ []
  key_eq : ∀ run ∈ runs, ∀ a ∈ run, ∀ b ∈ run, a.key = b.key
  key_ne : runs.IsChain fun before after =>
    ∃ hbefore hafter, (before.getLast hbefore).key ≠ (after.head hafter).key

theorem key_eq_of_isChain {run : List ForeignKeyRow}
    (h : run.IsChain fun a b => a.sameKey b = true) :
    ∀ a ∈ run, ∀ b ∈ run, a.key = b.key := by
  have hkeys : (run.map key).IsChain Eq :=
    (List.isChain_map key).2 (h.imp fun _ _ => sameKey_iff.1)
  have hpairs : (run.map key).Pairwise Eq := List.isChain_iff_pairwise.1 hkeys
  intro a ha b hb
  exact hpairs.forall_of_forall (fun _ _ => rfl) (List.mem_map_of_mem ha)
    (List.mem_map_of_mem hb)

theorem runs_splitBy (rows : List ForeignKeyRow) :
    Runs rows (rows.splitBy sameKey) where
  flatten_eq := List.flatten_splitBy sameKey rows
  ne_nil _ hrun := List.ne_nil_of_mem_splitBy hrun
  key_eq _ hrun := key_eq_of_isChain (List.isChain_of_mem_splitBy hrun)
  key_ne := by
    refine (List.isChain_getLast_head_splitBy sameKey rows).imp ?_
    rintro before after ⟨hbefore, hafter, hother⟩
    refine ⟨hbefore, hafter, fun heq => ?_⟩
    rw [sameKey_iff.2 heq] at hother
    cases hother

end ForeignKeyRow

namespace Grouping

/-- A row of the key in progress adds a pair. -/
theorem add_of_sameKey (schema : String) (complete : List Relation)
    {previous row : ForeignKeyRow} (relation : Relation)
    (h : previous.sameKey row = true) :
    add schema ⟨complete, some (previous, relation)⟩ row =
      ⟨complete, some (row, relation.push (row.pair schema))⟩ := by
  simp [add, h]

/-- A row of another key completes the relation in progress. -/
theorem add_of_not_sameKey (schema : String) (complete : List Relation)
    {previous row : ForeignKeyRow} (relation : Relation)
    (h : previous.sameKey row = false) :
    add schema ⟨complete, some (previous, relation)⟩ row =
      ⟨relation :: complete, some (row, .single (row.pair schema))⟩ := by
  simp [add, h]

end Grouping

namespace Relation

/-- The relation that has a pair for each row. -/
def ofRun (schema : String) (run : List ForeignKeyRow) : Relation :=
  ⟨run.map (·.pair schema)⟩

theorem push_ofRun (schema : String) (run : List ForeignKeyRow)
    (row : ForeignKeyRow) :
    (ofRun schema run).push (row.pair schema) =
      ofRun schema (run ++ [row]) := by
  simp [ofRun, push]

theorem single_pair (schema : String) (row : ForeignKeyRow) :
    single (row.pair schema) = ofRun schema [row] := rfl

/-- In the middle of a pass: the complete relations are those of the complete
runs, and the relation in progress is that of the run in progress. -/
theorem relations_foldl_add (schema : String) (rows : List ForeignKeyRow)
    (last : ForeignKeyRow) (before : List ForeignKeyRow)
    (runs : List (List ForeignKeyRow)) :
    (rows.foldl (Grouping.add schema)
      { complete := runs.map (ofRun schema)
        current :=
          some (last, ofRun schema (last :: before).reverse) }).relations =
      (List.splitBy.loop ForeignKeyRow.sameKey rows last before runs).map
        (ofRun schema) := by
  induction rows generalizing last before runs with
  | nil => simp [Grouping.relations, List.splitBy.loop]
  | cons row rest ih =>
      rw [List.foldl_cons, List.splitBy.loop]
      cases hsame : last.sameKey row with
      | true =>
          rw [Grouping.add_of_sameKey _ _ _ hsame, push_ofRun,
            ← List.reverse_cons]
          exact ih row (last :: before) runs
      | false =>
          rw [Grouping.add_of_not_sameKey _ _ _ hsame, single_pair]
          exact ih row [] ((last :: before).reverse :: runs)

/-- There is one relation for each run of rows. -/
theorem ofRows_eq (schema : String) (rows : List ForeignKeyRow) :
    ofRows schema rows =
      (rows.splitBy ForeignKeyRow.sameKey).map (ofRun schema) := by
  cases rows with
  | nil => rfl
  | cons row rest => exact relations_foldl_add schema rest row [] []

theorem readCursor_ok {ε : Type} (schema : String) (g : Grouping)
    (rows : List ForeignKeyRow) :
    readCursor (ε := ε) schema g (rows.map .ok) =
      (.ok (rows.foldl (Grouping.add schema) g).relations, rows.length) := by
  induction rows generalizing g with
  | nil => rfl
  | cons row rest ih => simp [readCursor, ih]

/-- Nothing is taken from a cursor after its first error. -/
theorem readCursor_error {ε : Type} (schema : String) (g : Grouping)
    (rows : List ForeignKeyRow) (e : ε)
    (rest : List (Except ε ForeignKeyRow)) :
    readCursor schema g (rows.map .ok ++ .error e :: rest) =
      (.error e, rows.length + 1) := by
  induction rows generalizing g with
  | nil => rfl
  | cons row more ih => simp [readCursor, ih]

/-- A cursor that does not fail gives the relations of its rows. -/
theorem ofCursor_ok {ε : Type} (schema : String) (rows : List ForeignKeyRow) :
    ofCursor (ε := ε) schema (rows.map .ok) =
      (.ok (ofRows schema rows), rows.length) :=
  readCursor_ok schema {} rows

/-- A cursor gives rows until it ends or fails. -/
theorem exists_rows_of_cursor {ε : Type}
    (items : List (Except ε ForeignKeyRow)) :
    (∃ rows : List ForeignKeyRow, items = rows.map .ok) ∨
      ∃ (rows : List ForeignKeyRow) (e : ε)
        (rest : List (Except ε ForeignKeyRow)),
        items = rows.map .ok ++ .error e :: rest := by
  induction items with
  | nil => exact .inl ⟨[], rfl⟩
  | cons item items ih =>
      cases item with
      | error e => exact .inr ⟨[], e, items, rfl⟩
      | ok row =>
          rcases ih with ⟨rows, rfl⟩ | ⟨rows, e, rest, rfl⟩
          · exact .inl ⟨row :: rows, rfl⟩
          · exact .inr ⟨row :: rows, e, rest, rfl⟩

theorem flatMap_pairs_ofRun (schema : String)
    (runs : List (List ForeignKeyRow)) :
    (runs.map (ofRun schema)).flatMap pairs =
      runs.flatten.map (·.pair schema) := by
  rw [List.flatMap_map, List.map_flatten, List.flatMap_def]
  rfl

/-- The relations of rows are their runs, and the pairs of the relations are
the rows. A cursor that does not fail gives the relations of its rows, and one
that does gives its first error after the rows before it have been taken. -/
theorem ofRows_runs (schema : String) (rows : List ForeignKeyRow) {ε : Type}
    (items : List (Except ε ForeignKeyRow)) :
    (∃ runs, ForeignKeyRow.Runs rows runs ∧
        ofRows schema rows = runs.map (ofRun schema)) ∧
      (ofRows schema rows).flatMap pairs = rows.map (fun row =>
        { column := ⟨schema, row.table, row.column⟩
          referenced := ⟨row.referencedSchema.getD schema,
            row.referencedTable, row.referencedColumn⟩ }) ∧
      (∀ relation ∈ ofRows schema rows, relation.pairs ≠ []) ∧
      ((∃ taken : List ForeignKeyRow, items = taken.map .ok ∧
          ofCursor schema items = (.ok (ofRows schema taken), taken.length)) ∨
        ∃ (taken : List ForeignKeyRow) (e : ε)
          (rest : List (Except ε ForeignKeyRow)),
          items = taken.map .ok ++ .error e :: rest ∧
            ofCursor schema items = (.error e, taken.length + 1)) := by
  have hruns := ForeignKeyRow.runs_splitBy rows
  refine ⟨⟨_, hruns, ofRows_eq schema rows⟩, ?_, ?_, ?_⟩
  · rw [ofRows_eq, flatMap_pairs_ofRun, hruns.flatten_eq]
    rfl
  · intro relation hrelation
    rw [ofRows_eq] at hrelation
    obtain ⟨run, hrun, rfl⟩ := List.mem_map.1 hrelation
    exact fun hnil => hruns.ne_nil run hrun (List.map_eq_nil_iff.1 hnil)
  · rcases exists_rows_of_cursor items with
      ⟨taken, rfl⟩ | ⟨taken, e, rest, rfl⟩
    · exact .inl ⟨taken, rfl, ofCursor_ok schema taken⟩
    · exact .inr ⟨taken, e, rest, rfl, readCursor_error schema {} taken e rest⟩

end Relation

end SchemaScope
