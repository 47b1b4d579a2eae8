import Mathlib.Data.List.SplitBy
import Mathlib.Data.Finset.Sort

/-!
Stable sorting, and runs. Sorting keeps the order of tied items; so what it does
to some items of a list does not depend on the others. A list that is sorted by
a key falls into one run for each key.
-/

namespace SchemaScope.Sorting

variable {α ι : Type} {le : α → α → Bool}

/-- Items that are tied come out of sorting in the order in which they went
in. -/
theorem filter_mergeSort_of_tied
    (trans : ∀ a b c, le a b → le b c → le a c)
    (total : ∀ a b, le a b || le b a) {p : α → Bool}
    (hp : ∀ a b, p a → p b → le a b) (l : List α) :
    (l.mergeSort le).filter p = l.filter p := by
  have hsorted : (l.filter p).Pairwise fun a b => le a b := by
    refine List.pairwise_of_forall_mem_list ?_
    intro a ha b hb
    exact hp a b (List.mem_filter.1 ha).2 (List.mem_filter.1 hb).2
  have hsub : (l.filter p).Sublist ((l.mergeSort le).filter p) := by
    have h := (List.sublist_mergeSort trans total hsorted
      List.filter_sublist).filter p
    rwa [List.filter_filter, funext fun a => Bool.and_self (p a)] at h
  have hlength := ((List.mergeSort_perm l le).filter p).length_eq
  exact (hsub.eq_of_length hlength.symm).symm

/-- Lists that are sorted and agree on all tied items are the same. -/
theorem eq_of_pairwise_of_tied_eq (total : ∀ a b, le a b || le b a)
    {l₁ l₂ : List α} (h₁ : l₁.Pairwise fun a b => le a b)
    (h₂ : l₂.Pairwise fun a b => le a b)
    (h : ∀ a, l₁.filter (fun b => le a b && le b a) =
      l₂.filter (fun b => le a b && le b a)) : l₁ = l₂ := by
  have hrefl : ∀ a, le a a = true := by
    intro a
    simpa using total a a
  have hmem : ∀ {l l' : List α} {a : α}, a ∈ l →
      l.filter (fun b => le a b && le b a) =
        l'.filter (fun b => le a b && le b a) → a ∈ l' := by
    intro l l' a ha heq
    have hself : a ∈ l.filter (fun b => le a b && le b a) := by
      simp [ha, hrefl]
    rw [heq] at hself
    exact List.mem_of_mem_filter hself
  induction l₁ generalizing l₂ with
  | nil =>
      cases l₂ with
      | nil => rfl
      | cons b l₂ => exact absurd (hmem List.mem_cons_self (h b).symm) nofun
  | cons a l₁ ih =>
      cases l₂ with
      | nil => exact absurd (hmem List.mem_cons_self (h a)) nofun
      | cons b l₂ =>
          have hab : le a b = true := by
            rcases List.mem_cons.1 (hmem List.mem_cons_self (h b).symm) with
              rfl | hb
            · exact hrefl b
            · exact List.rel_of_pairwise_cons h₁ hb
          have hba : le b a = true := by
            rcases List.mem_cons.1 (hmem List.mem_cons_self (h a)) with
              rfl | ha
            · exact hrefl a
            · exact List.rel_of_pairwise_cons h₂ ha
          have hhead := h a
          simp only [List.filter_cons, hrefl, hab, hba, Bool.and_self, if_true,
            List.cons.injEq] at hhead
          obtain ⟨rfl, _⟩ := hhead
          rw [ih h₁.of_cons h₂.of_cons]
          intro c
          have hc := h c
          simp only [List.filter_cons] at hc
          split at hc
          · exact (List.cons.inj hc).2
          · exact hc

/-- Some items of a list are sorted as if the others were not there. -/
theorem filter_mergeSort (trans : ∀ a b c, le a b → le b c → le a c)
    (total : ∀ a b, le a b || le b a) (p : α → Bool) (l : List α) :
    (l.mergeSort le).filter p = (l.filter p).mergeSort le := by
  refine eq_of_pairwise_of_tied_eq total
    ((List.pairwise_mergeSort trans total l).filter p)
    (List.pairwise_mergeSort trans total (l.filter p)) ?_
  intro a
  have htied : ∀ b c, (le a b && le b a) = true → (le a c && le c a) = true →
      le b c = true := by
    intro b c hb hc
    exact trans b a c (Bool.and_eq_true_iff.1 hb).2
      (Bool.and_eq_true_iff.1 hc).1
  rw [filter_mergeSort_of_tied trans total htied, List.filter_filter,
    List.filter_filter]
  refine filter_mergeSort_of_tied trans total ?_ l
  intro b c hb hc
  exact htied b c (Bool.and_eq_true_iff.1 hb).1 (Bool.and_eq_true_iff.1 hc).1

section Runs

variable {key : α → Int}

/-- In a sorted list the items with the least key come first. -/
theorem eq_filter_append_filter {l : List α} {k : Int}
    (hl : l.Pairwise fun a b => key a ≤ key b) (hk : ∀ a ∈ l, k ≤ key a) :
    l = l.filter (key · = k) ++ l.filter (key · ≠ k) := by
  induction l with
  | nil => rfl
  | cons a l ih =>
      by_cases ha : key a = k
      · have hrest := ih hl.of_cons fun b hb => hk b (List.mem_cons_of_mem a hb)
        simpa [List.filter_cons, ha] using hrest
      · -- Everything behind a greater key has a greater key.
        have hgreater : ∀ b ∈ a :: l, key b ≠ k := by
          intro b hb
          have hka := hk a List.mem_cons_self
          rcases List.mem_cons.1 hb with rfl | hb
          · exact ha
          · have hab := List.rel_of_pairwise_cons hl hb
            omega
        rw [List.filter_eq_nil_iff.2 (by simpa using hgreater),
          List.filter_eq_self.2 (by simpa using hgreater), List.nil_append]

/-- A list that is sorted by a key consists of the items of each key, one
key after the other. -/
theorem flatMap_filter_eq {ids : List Int} (hids : ids.Pairwise (· < ·))
    {l : List α} (hl : l.Pairwise fun a b => key a ≤ key b)
    (hmem : ∀ a ∈ l, key a ∈ ids) :
    ids.flatMap (fun k => l.filter (key · = k)) = l := by
  induction ids generalizing l with
  | nil =>
      cases l with
      | nil => rfl
      | cons a l => exact absurd (hmem a List.mem_cons_self) nofun
  | cons k ids ih =>
      have hleast : ∀ a ∈ l, k ≤ key a := by
        intro a ha
        rcases List.mem_cons.1 (hmem a ha) with heq | hrest
        · exact Int.le_of_eq heq.symm
        · exact Int.le_of_lt (List.rel_of_pairwise_cons hids hrest)
      have hothers : ∀ i ∈ ids,
          l.filter (key · = i) = (l.filter (key · ≠ k)).filter (key · = i) := by
        intro i hi
        have hki := List.rel_of_pairwise_cons hids hi
        rw [List.filter_filter]
        refine List.filter_congr ?_
        intro a _
        by_cases ha : key a = i
        · simp [ha, (Int.ne_of_lt hki).symm]
        · simp [ha]
      have hrest := ih hids.of_cons (hl.filter (key · ≠ k)) <| by
        intro a ha
        obtain ⟨hal, hak⟩ := List.mem_filter.1 ha
        exact (List.mem_cons.1 (hmem a hal)).resolve_left (by simpa using hak)
      calc (k :: ids).flatMap (fun i => l.filter (key · = i))
          = l.filter (key · = k) ++ ids.flatMap
              (fun i => (l.filter (key · ≠ k)).filter (key · = i)) := by
            rw [List.flatMap_cons, List.flatMap_congr hothers]
        _ = l.filter (key · = k) ++ l.filter (key · ≠ k) := by rw [hrest]
        _ = l := (eq_filter_append_filter hl hleast).symm

/-- Lists of items that belong together are the runs of their
concatenation, if items of different lists do not belong together. -/
theorem splitBy_flatMap {r : α → α → Bool} {is : List ι} {f : ι → List α}
    (hne : ∀ i ∈ is, f i ≠ [])
    (hsame : ∀ i ∈ is, ∀ a ∈ f i, ∀ b ∈ f i, r a b = true)
    (hother : is.Pairwise fun i j => ∀ a ∈ f i, ∀ b ∈ f j, r a b = false) :
    (is.flatMap f).splitBy r = is.map f := by
  rw [List.flatMap_def]
  refine List.splitBy_flatten ?_ ?_ ?_
  · intro hnil
    obtain ⟨i, hi, heq⟩ := List.mem_map.1 hnil
    exact hne i hi heq
  · intro m hm
    obtain ⟨i, hi, rfl⟩ := List.mem_map.1 hm
    exact (List.pairwise_of_forall_mem_list (hsame i hi)).isChain
  · refine List.Pairwise.isChain ?_
    rw [List.pairwise_map]
    refine hother.imp_of_mem ?_
    intro i j hi hj h
    exact ⟨hne i hi, hne j hj, h _ (List.getLast_mem _) _ (List.head_mem _)⟩

end Runs

end SchemaScope.Sorting
