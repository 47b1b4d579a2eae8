import Mathlib.Data.List.Nodup
import SchemaScope.SortedMap

/-!
Sorted maps out of lists. If no name occurs twice, the order of the list does
not count.
-/

namespace SchemaScope.SortedMap

variable {α : Type}

theorem insertEntry_perm {name : String} (value : α)
    {entries : List (String × α)}
    (hname : name ∉ entries.map Prod.fst) :
    (insertEntry name value entries).Perm ((name, value) :: entries) := by
  induction entries with
  | nil => exact .refl _
  | cons head rest ih =>
      obtain ⟨n, v⟩ := head
      simp only [List.map_cons, List.mem_cons, not_or] at hname
      obtain ⟨hne, hrest⟩ := hname
      by_cases hlt : name < n
      · simp [insertEntry, hlt]
      · simp only [insertEntry, if_neg hlt, if_neg hne]
        exact ((ih hrest).cons _).trans (.swap _ _ _)

/-- Entries under new names are added to those of a map. -/
theorem entries_foldl_insert_perm {fields : List (String × α)}
    {m : SortedMap α}
    (hnames : ((fields ++ m.entries).map Prod.fst).Nodup) :
    (fields.foldl (fun m e => m.insert e.1 e.2) m).entries.Perm
      (fields ++ m.entries) := by
  induction fields generalizing m with
  | nil => exact .refl _
  | cons field rest ih =>
      simp only [List.cons_append, List.map_cons, List.nodup_cons] at hnames
      obtain ⟨hfield, hnames⟩ := hnames
      have hinsert : (m.insert field.1 field.2).entries.Perm
          (field :: m.entries) := by
        apply insertEntry_perm
        intro hmem
        apply hfield
        rw [List.map_append]
        exact List.mem_append_right _ hmem
      have hmoved : (rest ++ (m.insert field.1 field.2).entries).Perm
          (field :: (rest ++ m.entries)) :=
        (hinsert.append_left rest).trans List.perm_middle
      rw [List.foldl_cons]
      refine (ih ?_).trans hmoved
      rw [(hmoved.map Prod.fst).nodup_iff, List.map_cons]
      exact List.nodup_cons.2 ⟨hfield, hnames⟩

theorem names_nodup (m : SortedMap α) :
    (m.entries.map Prod.fst).Nodup := by
  rw [List.Nodup, List.pairwise_map]
  apply m.sorted.imp
  intro a b hlt heq
  rw [heq] at hlt
  exact String.lt_irrefl _ hlt

theorem eq_of_perm {m m' : SortedMap α} (h : m.entries.Perm m'.entries) :
    m = m' := by
  apply ext_entries
  apply h.eq_of_pairwise _ m.sorted m'.sorted
  intro a b _ _ hab hba
  exact absurd (String.lt_trans hab hba) (String.lt_irrefl _)

/-- A map is the map of its entries, in whatever order they are listed. -/
theorem ofList_eq_of_perm {fields : List (String × α)} {m : SortedMap α}
    (h : fields.Perm m.entries) : ofList fields = m := by
  have hnames : ((fields ++ empty.entries).map Prod.fst).Nodup := by
    simpa [empty, (h.map Prod.fst).nodup_iff] using m.names_nodup
  apply eq_of_perm
  refine (entries_foldl_insert_perm hnames).trans ?_
  simpa [empty] using h

theorem entries_ofList_of_perm {fields entries : List (String × α)}
    (hsorted : entries.Pairwise fun a b => a.1 < b.1)
    (h : fields.Perm entries) : (ofList fields).entries = entries :=
  congrArg SortedMap.entries
    (ofList_eq_of_perm (m := ⟨entries, hsorted⟩) h)

end SchemaScope.SortedMap
