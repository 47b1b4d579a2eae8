import Mathlib.Data.List.Forall2

/-!
Computations that may fail, one after the other: they have a result if each of
them has, and otherwise end at the first that fails.
-/

namespace SchemaScope.Fallible

variable {ε α β : Type}

theorem exists_of_bind_eq_ok {x : Except ε α} {f : α → Except ε β} {b : β}
    (h : (x >>= f) = .ok b) : ∃ a, x = .ok a ∧ f a = .ok b := by
  cases x with
  | error e => cases h
  | ok a => exact ⟨a, rfl, h⟩

variable {f g : α → Except ε β} {items : List α} {results : List β}

theorem mapM_eq_ok {value : α → β}
    (hf : ∀ item ∈ items, f item = .ok (value item)) :
    items.mapM f = .ok (items.map value) := by
  induction items with
  | nil => rfl
  | cons item rest ih =>
      obtain ⟨hitem, hrest⟩ := List.forall_mem_cons.1 hf
      rw [List.mapM_cons, hitem, ih hrest]
      rfl

theorem mapM_congr (h : ∀ item ∈ items, f item = g item) :
    items.mapM f = items.mapM g := by
  induction items with
  | nil => rfl
  | cons item rest ih =>
      obtain ⟨hitem, hrest⟩ := List.forall_mem_cons.1 h
      rw [List.mapM_cons, List.mapM_cons, hitem, ih hrest]

/-- There is a result for every item, in the order of the items. -/
theorem forall₂_of_mapM_eq_ok (h : items.mapM f = .ok results) :
    List.Forall₂ (fun item result => f item = .ok result) items results := by
  induction items generalizing results with
  | nil =>
      cases h
      exact .nil
  | cons item rest ih =>
      rw [List.mapM_cons] at h
      obtain ⟨result, hitem, h⟩ := exists_of_bind_eq_ok h
      obtain ⟨more, hrest, h⟩ := exists_of_bind_eq_ok h
      cases h
      exact .cons hitem (ih hrest)

theorem exists_of_mapM_eq_ok (h : items.mapM f = .ok results) :
    ∀ item ∈ items, ∃ result, f item = .ok result := by
  have hresults := forall₂_of_mapM_eq_ok h
  clear h
  induction hresults with
  | nil => simp
  | cons hitem _ ih => exact List.forall_mem_cons.2 ⟨⟨_, hitem⟩, ih⟩

end SchemaScope.Fallible
