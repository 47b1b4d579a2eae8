import SchemaScope.Proofs.Sorting
import SchemaScope.Sqlite.ForeignKeys

/-!
The keys of a table, one after the other. The way through the columns of all
keys, which takes back the rows of a key as soon as one of its columns points
nowhere, gives what each key gives by itself.
-/

namespace SchemaScope.Sqlite

namespace ForeignKeyInfo

variable {infos : List ForeignKeyInfo}

/-- The keys of a table in ascending order, each with its columns in order. -/
def byKey (infos : List ForeignKeyInfo) : List (List ForeignKeyInfo) :=
  (infos.mergeSort atMost).splitBy fun a b => a.id = b.id

/-- The numbers of the keys of a list, in ascending order. -/
def ids (infos : List ForeignKeyInfo) : List Int :=
  (infos.map (·.id)).toFinset.sort

/-- The columns of one key, in its own order. -/
def ofKey (infos : List ForeignKeyInfo) (id : Int) : List ForeignKeyInfo :=
  (infos.filter (·.id = id)).mergeSort fun a b => a.sequence ≤ b.sequence

theorem ids_pairwise (infos : List ForeignKeyInfo) :
    (ids infos).Pairwise (· < ·) :=
  (Finset.sortedLT_sort _).pairwise

@[simp] theorem mem_ids {id : Int} :
    id ∈ ids infos ↔ ∃ info ∈ infos, info.id = id := by
  simp [ids]

@[simp] theorem mem_ofKey {id : Int} {info : ForeignKeyInfo} :
    info ∈ ofKey infos id ↔ info ∈ infos ∧ info.id = id := by
  simp [ofKey]

theorem ofKey_ne_nil {id : Int} (hid : id ∈ ids infos) :
    ofKey infos id ≠ [] := by
  obtain ⟨info, hinfo, heq⟩ := mem_ids.1 hid
  exact List.ne_nil_of_mem (mem_ofKey.2 ⟨hinfo, heq⟩)

theorem atMost_iff {a b : ForeignKeyInfo} :
    a.atMost b = true ↔
      a.id < b.id ∨ a.id = b.id ∧ a.sequence ≤ b.sequence := by
  simp [atMost]

theorem atMost_trans (a b c : ForeignKeyInfo) (hab : a.atMost b = true)
    (hbc : b.atMost c = true) : a.atMost c = true := by
  rw [atMost_iff] at *
  omega

theorem atMost_total (a b : ForeignKeyInfo) :
    (a.atMost b || b.atMost a) = true := by
  rw [Bool.or_eq_true, atMost_iff, atMost_iff]
  omega

/-- Among the columns of one key only their places count. -/
theorem filter_mergeSort_atMost (infos : List ForeignKeyInfo) (id : Int) :
    (infos.mergeSort atMost).filter (·.id = id) = ofKey infos id := by
  rw [Sorting.filter_mergeSort atMost_trans atMost_total, ofKey]
  have hsame : ∀ a ∈ infos.filter (·.id = id), ∀ b ∈ infos.filter (·.id = id),
      a.atMost b = decide (a.sequence ≤ b.sequence) := by
    intro a ha b hb
    simp only [List.mem_filter, decide_eq_true_eq] at ha hb
    simp [atMost, ha.2, hb.2]
  simpa using List.map_mergeSort (f := fun info => info) hsame

/-- The columns in order are those of each key, one key after the other. -/
theorem flatMap_ofKey (infos : List ForeignKeyInfo) :
    (ids infos).flatMap (ofKey infos) = infos.mergeSort atMost := by
  have hsorted : (infos.mergeSort atMost).Pairwise fun a b => a.id ≤ b.id := by
    refine (List.pairwise_mergeSort atMost_trans atMost_total infos).imp ?_
    intro a b hab
    rw [atMost_iff] at hab
    omega
  rw [← funext (filter_mergeSort_atMost infos)]
  refine Sorting.flatMap_filter_eq (ids_pairwise infos) hsorted ?_
  intro a ha
  exact mem_ids.2 ⟨a, List.mem_mergeSort.1 ha, rfl⟩

/-- The columns of keys fall into one group for each key. -/
theorem byKey_eq (infos : List ForeignKeyInfo) :
    byKey infos = (ids infos).map (ofKey infos) := by
  rw [byKey, ← flatMap_ofKey]
  refine Sorting.splitBy_flatMap (fun id => ofKey_ne_nil) ?_ ?_
  · intro id _ a ha b hb
    simp [(mem_ofKey.1 ha).2, (mem_ofKey.1 hb).2]
  · refine (ids_pairwise infos).imp ?_
    intro i j hij a ha b hb
    simp [(mem_ofKey.1 ha).2, (mem_ofKey.1 hb).2, Int.ne_of_lt hij]

end ForeignKeyInfo

namespace KeyScan

variable {scan : KeyScan} {id : Int} {row : ForeignKeyRow}

@[simp] theorem enter_current (scan : KeyScan) (id : Int) :
    (scan.enter id).current = some id := by
  unfold enter
  split
  · assumption
  · rfl

@[simp] theorem enter_skipped (scan : KeyScan) (id : Int) :
    (scan.enter id).skipped = scan.skipped := by
  unfold enter
  split <;> rfl

theorem enter_of_current (h : scan.current = some id) : scan.enter id = scan :=
  if_pos h

theorem enter_of_not_current (h : scan.current ≠ some id) :
    scan.enter id =
      { scan with current := some id, start := scan.rows.length } :=
  if_neg h

/-- A key is over, whose rows are these. -/
def finish (scan : KeyScan) (id : Int) (rows : List ForeignKeyRow) : KeyScan :=
  { scan with
    rows := scan.rows.take scan.start ++ rows
    skipped := if rows = [] then some id else scan.skipped }

theorem leaveOut_eq (scan : KeyScan) (id : Int) :
    scan.leaveOut id = scan.finish id [] := by
  simp [leaveOut, finish]

theorem finish_drop (h : scan.start < scan.rows.length) :
    scan.finish id (scan.rows.drop scan.start) = scan := by
  simp [finish, Nat.not_le.2 h]

theorem finish_enter_rows (h : scan.current ≠ some id)
    (rows : List ForeignKeyRow) :
    ((scan.enter id).finish id rows).rows = scan.rows ++ rows := by
  rw [enter_of_not_current h, finish, List.take_length]

theorem finish_skipped_ne {other : Int} (hother : other ≠ id)
    (h : scan.skipped ≠ some other) (rows : List ForeignKeyRow) :
    (scan.finish id rows).skipped ≠ some other := by
  unfold finish
  split
  · simpa using hother.symm
  · exact h

theorem finish_push (h : scan.start ≤ scan.rows.length) :
    (scan.push row).finish id = scan.finish id := by
  funext rows
  simp [push, finish, List.take_append_of_le_length h]

theorem drop_push (h : scan.start ≤ scan.rows.length) :
    (scan.push row).rows.drop scan.start = scan.rows.drop scan.start ++ [row] :=
  List.drop_append_of_le_length h

end KeyScan

namespace Catalog

/-- The rows of a key. A key with a column that points nowhere has none; its
other columns are not looked at any more. -/
def keyRows (c : Catalog) (schema table : String) :
    (before : List ForeignKeyRow) → List ForeignKeyInfo →
      Except String (List ForeignKeyRow)
  | before, [] => .ok before.reverse
  | before, info :: rest => do
    match ← c.referencedColumn? schema info with
    | some referenced =>
        keyRows c schema table (info.row table referenced :: before) rest
    | none => return []

section Scan

variable (c : Catalog) (schema table : String) {id : Int} {scan : KeyScan}
  {infos : List ForeignKeyInfo}

/-- The other columns of a key that has been left out change nothing. -/
theorem foldlM_scanColumn_of_skipped (hid : ∀ info ∈ infos, info.id = id)
    (hcurrent : scan.current = some id) (hskipped : scan.skipped = some id) :
    infos.foldlM (c.scanColumn schema table) scan = .ok scan := by
  induction infos with
  | nil => rfl
  | cons info rest ih =>
      obtain ⟨rfl, hrest⟩ := List.forall_mem_cons.1 hid
      have hstep : c.scanColumn schema table scan info = .ok scan := by
        simp only [scanColumn, KeyScan.enter_of_current hcurrent,
          if_pos hskipped]
      rw [List.foldlM_cons, hstep]
      exact ih hrest

/-- What follows of a key completes the rows that it has so far, or leaves
them out. -/
theorem foldlM_scanColumn_of_current (hid : ∀ info ∈ infos, info.id = id)
    (hcurrent : scan.current = some id) (hskipped : scan.skipped ≠ some id)
    (hstart : scan.start ≤ scan.rows.length)
    (hne : infos ≠ [] ∨ scan.start < scan.rows.length) :
    infos.foldlM (c.scanColumn schema table) scan =
      (c.keyRows schema table (scan.rows.drop scan.start).reverse infos).map
        (scan.finish id) := by
  induction infos generalizing scan with
  | nil =>
      have hlt := hne.resolve_left (· rfl)
      rw [keyRows, List.reverse_reverse]
      exact congrArg Except.ok (KeyScan.finish_drop hlt).symm
  | cons info rest ih =>
      obtain ⟨rfl, hrest⟩ := List.forall_mem_cons.1 hid
      rw [List.foldlM_cons, keyRows, scanColumn,
        KeyScan.enter_of_current hcurrent]
      simp only [if_neg hskipped]
      cases c.referencedColumn? schema info with
      | error e => rfl
      | ok referenced? =>
          cases referenced? with
          | none =>
              refine (foldlM_scanColumn_of_skipped c schema table hrest ?_
                ?_).trans (congrArg Except.ok (scan.leaveOut_eq info.id))
              · exact hcurrent
              · rfl
          | some referenced =>
              let next := scan.push (info.row table referenced)
              have hlt : scan.start < next.rows.length := by
                simp only [next, KeyScan.push, List.length_append,
                  List.length_singleton]
                omega
              have hnext : rest.foldlM (c.scanColumn schema table) next =
                  (c.keyRows schema table
                    (next.rows.drop scan.start).reverse rest).map
                    (next.finish info.id) :=
                ih hrest hcurrent hskipped (Nat.le_of_lt hlt) (.inr hlt)
              rw [KeyScan.finish_push hstart, KeyScan.drop_push hstart,
                List.reverse_append] at hnext
              exact hnext

/-- From one key to the next: what it gives by itself is added. -/
theorem foldlM_scanColumn_key (hid : ∀ info ∈ infos, info.id = id)
    (hne : infos ≠ []) (hcurrent : scan.current ≠ some id)
    (hskipped : scan.skipped ≠ some id) :
    infos.foldlM (c.scanColumn schema table) scan =
      (c.keyRows schema table [] infos).map ((scan.enter id).finish id) := by
  have hentered := foldlM_scanColumn_of_current c schema table hid
    (scan.enter_current id)
  cases infos with
  | nil => exact absurd rfl hne
  | cons info rest =>
      obtain ⟨rfl, -⟩ := List.forall_mem_cons.1 hid
      have hstep : c.scanColumn schema table (scan.enter info.id) info =
          c.scanColumn schema table scan info := by
        simp only [scanColumn,
          KeyScan.enter_of_current (scan.enter_current info.id)]
      rw [List.foldlM_cons, hstep, ← List.foldlM_cons,
        KeyScan.enter_of_not_current hcurrent] at hentered
      rw [KeyScan.enter_of_not_current hcurrent]
      simpa using hentered hskipped (Nat.le_refl _) (.inl hne)

/-- Through all keys: the loop gives what the keys give, one after the
other, and fails where the first of them fails. -/
theorem foldlM_scanColumn_keys {columns : Int → List ForeignKeyInfo}
    {ids : List Int} (hids : ids.Nodup)
    (hcolumns : ∀ id ∈ ids,
      columns id ≠ [] ∧ ∀ info ∈ columns id, info.id = id)
    (hcurrent : ∀ id ∈ ids, scan.current ≠ some id)
    (hskipped : ∀ id ∈ ids, scan.skipped ≠ some id) :
    ((ids.flatMap columns).foldlM (c.scanColumn schema table) scan).map
        (·.rows) =
      ((ids.map columns).mapM (c.keyRows schema table [])).map
        (scan.rows ++ ·.flatten) := by
  induction ids generalizing scan with
  | nil => exact congrArg Except.ok (List.append_nil scan.rows).symm
  | cons id rest ih =>
      obtain ⟨hnew, hrest⟩ := List.nodup_cons.1 hids
      obtain ⟨⟨hne, hid⟩, hcolumns⟩ := List.forall_mem_cons.1 hcolumns
      obtain ⟨hcurrent, -⟩ := List.forall_mem_cons.1 hcurrent
      obtain ⟨hskippedId, hskipped⟩ := List.forall_mem_cons.1 hskipped
      rw [List.flatMap_cons, List.foldlM_append, List.map_cons, List.mapM_cons,
        foldlM_scanColumn_key c schema table hid hne hcurrent hskippedId]
      cases c.keyRows schema table [] (columns id) with
      | error e => rfl
      | ok rows =>
          have hother : ∀ other ∈ rest, other ≠ id := by
            rintro other hmem rfl
            exact hnew hmem
          have hnext : ∀ other ∈ rest,
              ((scan.enter id).finish id rows).current ≠ some other := by
            intro other hmem heq
            rw [KeyScan.finish, KeyScan.enter_current] at heq
            exact hother other hmem (Option.some.inj heq).symm
          have hdone := ih hrest hcolumns hnext fun other hmem =>
            KeyScan.finish_skipped_ne (hother other hmem)
              (by simpa using hskipped other hmem) rows
          rw [KeyScan.finish_enter_rows hcurrent] at hdone
          refine hdone.trans ?_
          cases (rest.map columns).mapM (c.keyRows schema table []) with
          | error e => rfl
          | ok groups =>
              exact congrArg Except.ok (List.append_assoc scan.rows rows _)

end Scan

/-- The rows of a table are those of its keys by themselves, in ascending
order. -/
theorem foreignKeyRows_eq_byKey (c : Catalog) (schema table : String) :
    c.foreignKeyRows schema table = (do
      let infos ← c.foreignKeyList schema table
      let groups ← (ForeignKeyInfo.byKey infos).mapM
        (c.keyRows schema table [])
      return groups.flatten) := by
  unfold foreignKeyRows
  cases c.foreignKeyList schema table with
  | error e => rfl
  | ok infos =>
      have hids := (ForeignKeyInfo.ids_pairwise infos).imp Int.ne_of_lt
      have hcolumns : ∀ id ∈ ForeignKeyInfo.ids infos,
          ForeignKeyInfo.ofKey infos id ≠ [] ∧
            ∀ info ∈ ForeignKeyInfo.ofKey infos id, info.id = id := by
        intro id hid
        exact ⟨ForeignKeyInfo.ofKey_ne_nil hid,
          fun info hinfo => (ForeignKeyInfo.mem_ofKey.1 hinfo).2⟩
      have hcurrent : ∀ id ∈ ForeignKeyInfo.ids infos,
          ({} : KeyScan).current ≠ some id := fun _ _ => nofun
      have hscan := foldlM_scanColumn_keys c schema table hids hcolumns
        hcurrent fun _ _ => nofun
      rw [ForeignKeyInfo.flatMap_ofKey, ← ForeignKeyInfo.byKey_eq] at hscan
      exact hscan

end Catalog

end SchemaScope.Sqlite
