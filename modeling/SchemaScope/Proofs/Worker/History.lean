import SchemaScope.Proofs.Worker.Moves

/-!
Histories of a worker: the steps that have been taken from its start, and the
worker as it was before and after each of them.
-/

namespace SchemaScope

namespace Worker

variable {ρ : Type} {w w' : Worker ρ} {events : List Event}

theorem run_cons_eq_some_iff {label : Label ρ} {rest : List (Label ρ)} :
    w.run (label :: rest) = some (w', events) ↔
      ∃ next now later, w.step label = some (next, now) ∧
        next.run rest = some (w', later) ∧ events = now ++ later := by
  constructor
  · intro h
    obtain ⟨⟨next, now⟩, hstep, h⟩ := Option.bind_eq_some_iff.1 h
    obtain ⟨⟨w'', later⟩, hrest, h⟩ := Option.bind_eq_some_iff.1 h
    cases h
    exact ⟨next, now, later, hstep, hrest, rfl⟩
  · rintro ⟨next, now, later, hstep, hrest, rfl⟩
    simp [run, hstep, hrest]

theorem run_append_eq_some_iff {first last : List (Label ρ)} :
    w.run (first ++ last) = some (w', events) ↔
      ∃ middle earlier later, w.run first = some (middle, earlier) ∧
        middle.run last = some (w', later) ∧ events = earlier ++ later := by
  induction first generalizing w events with
  | nil =>
      constructor
      · intro h
        exact ⟨w, [], events, rfl, h, rfl⟩
      · rintro ⟨middle, earlier, later, hnil, hlast, rfl⟩
        cases hnil
        exact hlast
  | cons label rest ih =>
      rw [List.cons_append, run_cons_eq_some_iff]
      constructor
      · rintro ⟨next, now, _, hstep, hrun, rfl⟩
        obtain ⟨middle, more, later, hrest, hlast, rfl⟩ := ih.1 hrun
        refine ⟨middle, now ++ more, later, ?_, hlast, by simp⟩
        exact run_cons_eq_some_iff.2 ⟨next, now, more, hstep, hrest, rfl⟩
      · rintro ⟨middle, _, later, hfirst, hlast, rfl⟩
        obtain ⟨next, now, more, hstep, hrest, rfl⟩ :=
          run_cons_eq_some_iff.1 hfirst
        refine ⟨next, now, more ++ later, hstep, ?_, by simp⟩
        exact ih.2 ⟨middle, more, later, hrest, hlast, rfl⟩

theorem run_singleton_eq_some_iff {label : Label ρ} :
    w.run [label] = some (w', events) ↔ w.step label = some (w', events) := by
  rw [run_cons_eq_some_iff]
  constructor
  · rintro ⟨next, now, later, hstep, hnil, rfl⟩
    cases hnil
    rw [hstep, List.append_nil]
  · intro hstep
    exact ⟨w', events, [], hstep, rfl, (List.append_nil events).symm⟩

/-- What a worker has at its start and every step keeps, every reachable
worker has. -/
theorem Reachable.induction {I : Worker ρ → Prop} (start : I initial)
    (next : ∀ {w w' : Worker ρ} {label events},
      w.step label = some (w', events) → I w → I w')
    (h : w.Reachable) : I w := by
  obtain ⟨labels, events, hrun⟩ := h
  have keeps : ∀ first : Worker ρ, I first →
      first.run labels = some (w, events) → I w := by
    clear hrun
    induction labels generalizing events with
    | nil =>
        intro first hfirst hrun
        cases hrun
        exact hfirst
    | cons label rest ih =>
        intro first hfirst hrun
        obtain ⟨second, now, later, hstep, hrest, _⟩ :=
          run_cons_eq_some_iff.1 hrun
        exact ih later second (next hstep hfirst) hrest
  exact keeps initial start hrun

end Worker

/-- Steps that a worker can take from its start, one after the other. -/
structure History (ρ : Type) where
  steps : List (Label ρ)
  possible : (Worker.initial.run steps).isSome

namespace History

variable {ρ : Type} (H : History ρ)

/-- The worker after the first `n` steps. -/
def worker (n : Nat) : Worker ρ :=
  ((Worker.initial.run (H.steps.take n)).map Prod.fst).getD .initial

/-- What is seen of the step that follows the first `n`. -/
def events (n : Nat) : List Event :=
  ((H.steps[n]?.bind (H.worker n).step).map Prod.snd).getD []

@[simp] theorem worker_zero : H.worker 0 = .initial := by
  simp [worker, Worker.run]

theorem run_take (n : Nat) :
    ∃ events, Worker.initial.run (H.steps.take n) =
      some (H.worker n, events) := by
  obtain ⟨⟨last, all⟩, hall⟩ := Option.isSome_iff_exists.1 H.possible
  rw [← List.take_append_drop n H.steps] at hall
  obtain ⟨middle, earlier, _, hrun, _⟩ := Worker.run_append_eq_some_iff.1 hall
  exact ⟨earlier, by simp [worker, hrun]⟩

theorem reachable_worker (n : Nat) : (H.worker n).Reachable :=
  ⟨H.steps.take n, H.run_take n⟩

/-- A worker is what its steps have made of it. -/
theorem step_worker {n : Nat} {label : Label ρ}
    (hlabel : H.steps[n]? = some label) :
    (H.worker n).step label = some (H.worker (n + 1), H.events n) := by
  obtain ⟨before, hbefore⟩ := H.run_take n
  obtain ⟨after, hafter⟩ := H.run_take (n + 1)
  rw [List.take_add_one, hlabel] at hafter
  obtain ⟨middle, _, now, hrun, hlast, _⟩ :=
    Worker.run_append_eq_some_iff.1 hafter
  rw [hbefore] at hrun
  cases hrun
  have hstep := Worker.run_singleton_eq_some_iff.1 hlast
  rw [hstep, events, hlabel, Option.bind_some, hstep]
  rfl

theorem run_take_succ {n : Nat} {label : Label ρ} {seen : List Event}
    (hrun : Worker.initial.run (H.steps.take n) = some (H.worker n, seen))
    (hlabel : H.steps[n]? = some label) :
    Worker.initial.run (H.steps.take (n + 1)) =
      some (H.worker (n + 1), seen ++ H.events n) := by
  rw [List.take_add_one, hlabel]
  exact Worker.run_append_eq_some_iff.2 ⟨_, seen, _, hrun,
    Worker.run_singleton_eq_some_iff.2 (H.step_worker hlabel), rfl⟩

theorem worker_succ_of_none {n : Nat} (hn : H.steps[n]? = none) :
    H.worker (n + 1) = H.worker n := by
  rw [worker, worker, List.take_add_one, hn]
  simp

theorem le_length_of_step {n : Nat} {label : Label ρ}
    (hlabel : H.steps[n]? = some label) : n ≤ H.steps.length :=
  Nat.le_of_lt (List.getElem?_eq_some_iff.1 hlabel).1

theorem exists_step_of_mem_events {n : Nat} {e : Event}
    (he : e ∈ H.events n) : ∃ label, H.steps[n]? = some label := by
  cases hlabel : H.steps[n]? with
  | none => simp [events, hlabel] at he
  | some label => exact ⟨label, rfl⟩

/-- What holds at the start and is kept by every step holds at all times. -/
theorem induction {P : Nat → Prop} (zero : P 0)
    (succ : ∀ n label, H.steps[n]? = some label → P n → P (n + 1)) {n : Nat}
    (hn : n ≤ H.steps.length) : P n := by
  induction n with
  | zero => exact zero
  | succ n ih =>
      have hlt : n < H.steps.length := hn
      exact succ n H.steps[n] (List.getElem?_eq_getElem hlt)
        (ih (Nat.le_of_lt hlt))

/-- What the steps between two times keep. -/
theorem kept_between {P : Worker ρ → Prop} {m n : Nat} (hmn : m ≤ n)
    (hP : ∀ k label, m ≤ k → k < n → H.steps[k]? = some label →
      P (H.worker k) → P (H.worker (k + 1)))
    (hm : P (H.worker m)) : P (H.worker n) := by
  induction hmn with
  | refl => exact hm
  | @step n hmn ih =>
      have hn :=
        ih fun k label hmk hkn => hP k label hmk (Nat.lt_succ_of_lt hkn)
      cases hlabel : H.steps[n]? with
      | none => exact (H.worker_succ_of_none hlabel).symm ▸ hn
      | some label => exact hP n label hmn (Nat.lt_succ_self n) hlabel hn

/-- What no step takes back stays. -/
theorem kept_of_le {P : Worker ρ → Prop}
    (hP : ∀ {w w' : Worker ρ} {label events},
      w.step label = some (w', events) → P w → P w') {m n : Nat}
    (hmn : m ≤ n) (hm : P (H.worker m)) : P (H.worker n) :=
  H.kept_between hmn (fun _ _ _ _ hlabel => hP (H.step_worker hlabel)) hm

/-- A number that no step lowers is never lower than it was. -/
theorem monotone {f : Worker ρ → Nat}
    (hf : ∀ {w w' : Worker ρ} {label events},
      w.step label = some (w', events) → f w ≤ f w') {m n : Nat}
    (hmn : m ≤ n) : f (H.worker m) ≤ f (H.worker n) :=
  H.kept_of_le (P := fun w => f (H.worker m) ≤ f w)
    (fun hstep hw => Nat.le_trans hw (hf hstep)) hmn (Nat.le_refl _)

theorem steps_drop_self (n : Nat) : (H.steps.take n).drop n = [] :=
  List.drop_eq_nil_of_le (List.length_take_le n H.steps)

theorem steps_drop_succ {first n : Nat} {label : Label ρ} (hfirst : first ≤ n)
    (hlabel : H.steps[n]? = some label) :
    (H.steps.take (n + 1)).drop first =
      (H.steps.take n).drop first ++ [label] := by
  obtain ⟨hlt, _⟩ := List.getElem?_eq_some_iff.1 hlabel
  have hlength : first ≤ (H.steps.take n).length := by
    rw [List.length_take]
    omega
  rw [List.take_add_one, hlabel, List.drop_append_of_le_length hlength]
  rfl

theorem exists_step_of_mem_filterMap {α : Type} {f : Label ρ → Option α}
    {first last : Nat} {a : α}
    (ha : a ∈ ((H.steps.take last).drop first).filterMap f) :
    ∃ n label, first ≤ n ∧ n < last ∧ H.steps[n]? = some label ∧
      f label = some a := by
  obtain ⟨label, hmem, hf⟩ := List.mem_filterMap.1 ha
  obtain ⟨i, hi⟩ := List.mem_iff_getElem?.1 hmem
  rw [List.getElem?_drop, List.getElem?_take] at hi
  split at hi
  · rename_i hlast
    exact ⟨first + i, label, Nat.le_add_right first i, hlast, hi, hf⟩
  · cases hi

theorem filterMap_steps_self {α : Type} (f : Label ρ → Option α) (n : Nat) :
    ((H.steps.take n).drop n).filterMap f = [] := by
  rw [steps_drop_self, List.filterMap_nil]

theorem filterMap_steps_succ {α : Type} (f : Label ρ → Option α)
    {first n : Nat} {label : Label ρ} (hfirst : first ≤ n)
    (hlabel : H.steps[n]? = some label) :
    ((H.steps.take (n + 1)).drop first).filterMap f =
      ((H.steps.take n).drop first).filterMap f ++ (f label).toList := by
  rw [H.steps_drop_succ hfirst hlabel, List.filterMap_append]
  cases h : f label <;> simp [h]

end History

end SchemaScope
