import SchemaScope.Proofs.Worker.History

/-!
Installations: which repository a cache comes from. Every cache goes back to one
step in which a caller installed it, the number of a cache tells that step apart
from all others, and the bound repository is always the one that the published
cache comes from.
-/

namespace SchemaScope

/-- What of a cache is fixed by its installation. -/
def SchemaCache.fixed (cache : SchemaCache) : Nat × Topology :=
  (cache.generation, cache.topology)

namespace Worker

variable {ρ : Type} {w w' : Worker ρ} {events : List Event}

theorem fixed_updateCache (w : Worker ρ) (generation : Nat)
    {change : SchemaCache → SchemaCache}
    (hchange : ∀ cache, (change cache).fixed = cache.fixed) :
    (w.updateCache generation change).caches.map SchemaCache.fixed =
      w.caches.map SchemaCache.fixed := by
  unfold updateCache
  split
  · rename_i cache older hcaches
    split
    · simp [hcaches, hchange]
    · rfl
  · rfl

namespace LoopMove

variable {move : LoopStep}

/-- The loop writes detail into caches and nothing else. -/
theorem fixed_caches (h : LoopMove w move w' events) :
    w'.caches.map SchemaCache.fixed = w.caches.map SchemaCache.fixed := by
  cases h with
  | writeColumns requests work result =>
      cases result with
      | ok columns =>
          exact fixed_updateCache w work.generation fun _ => rfl
      | error e => rfl
  | writeForeignKeys requests work result =>
      cases result with
      | ok foreignKeys =>
          exact fixed_updateCache w work.generation fun _ => rfl
      | error e => rfl
  | _ => rfl

theorem bound_eq (h : LoopMove w move w' events) : w'.bound = w.bound := by
  obtain ⟨_, _, _, _, _, rfl, _⟩ := h.exists_eq
  rfl

theorem generation_eq (h : LoopMove w move w' events) :
    w'.generation = w.generation := by
  obtain ⟨_, _, _, _, _, rfl, _⟩ := h.exists_eq
  rfl

end LoopMove

/-- A step installs a cache, or what is published stays but for its
detail. -/
theorem published_cases {label : Label ρ}
    (h : w.step label = some (w', events)) :
    (∃ id repository topology, label = .caller id .install ∧
        w.callers.get? id =
          some (.binding repository (.done (.ok topology))) ∧
        w'.bound = some repository ∧ w'.generation = w.generation + 1 ∧
        w'.caches = { generation := w.generation + 1, topology } :: w.caches) ∨
      (w'.bound = w.bound ∧ w'.generation = w.generation ∧
        w'.caches.map SchemaCache.fixed = w.caches.map SchemaCache.fixed ∧
        ∀ id, label ≠ .caller id .install) := by
  cases label with
  | caller id move =>
      have hmove := callerMove_of_step h
      by_cases hinstall : move = .install
      · subst hinstall
        cases hmove with
        | install repository topology hid =>
            exact .inl ⟨id, repository, topology, rfl, hid, rfl, rfl, rfl⟩
      · obtain ⟨hbound, hcaches, hgeneration⟩ := hmove.published_eq hinstall
        refine .inr ⟨hbound, hgeneration, by rw [hcaches], ?_⟩
        intro other heq
        cases heq
        exact hinstall rfl
  | loop move =>
      have hmove := loopMove_of_step h
      exact .inr ⟨hmove.bound_eq, hmove.generation_eq, hmove.fixed_caches,
        nofun⟩
  | drop =>
      obtain ⟨rfl, rfl⟩ := eq_of_drop h
      exact .inr ⟨rfl, rfl, rfl, nofun⟩

theorem generation_le_of_step {label : Label ρ}
    (h : w.step label = some (w', events)) :
    w.generation ≤ w'.generation := by
  rcases published_cases h with
    ⟨_, _, _, _, _, _, hgeneration, _⟩ | ⟨_, hgeneration, _⟩
  · omega
  · omega

end Worker

namespace History

variable {ρ : Type} {H : History ρ}

/-- At step `j` a caller installs the cache that the answers of a repository
have led to. What has been learnt since then does not count. -/
structure Installed (H : History ρ) (j caller : Nat) (repository : ρ)
    (cache : SchemaCache) : Prop where
  step : H.steps[j]? = some (.caller caller .install)
  source : (H.worker j).callers.get? caller =
    some (.binding repository (.done (.ok cache.topology)))
  number : cache.generation = (H.worker j).generation + 1

theorem Installed.of_fixed {j caller : Nat} {repository : ρ}
    {cache cache' : SchemaCache} (h : H.Installed j caller repository cache)
    (hfixed : cache'.fixed = cache.fixed) :
    H.Installed j caller repository cache' := by
  obtain ⟨hgeneration, htopology⟩ := Prod.mk.inj hfixed
  exact ⟨h.step, htopology ▸ h.source, hgeneration.trans h.number⟩

theorem generation_le (H : History ρ) {m n : Nat} (hmn : m ≤ n) :
    (H.worker m).generation ≤ (H.worker n).generation :=
  H.monotone Worker.generation_le_of_step hmn

theorem Installed.generation_succ {j caller : Nat} {repository : ρ}
    {cache : SchemaCache} (h : H.Installed j caller repository cache) :
    (H.worker (j + 1)).generation = cache.generation := by
  rcases Worker.published_cases (H.step_worker h.step) with
    ⟨_, _, _, _, _, _, hgeneration, _⟩ | ⟨_, _, _, hother⟩
  · rw [hgeneration, h.number]
  · exact absurd rfl (hother caller)

/-- The number of a cache tells which step has installed it, and with that
everything about its installation. -/
theorem Installed.unique {j j' caller caller' : Nat}
    {repository repository' : ρ} {cache cache' : SchemaCache}
    (h : H.Installed j caller repository cache)
    (h' : H.Installed j' caller' repository' cache')
    (hgeneration : cache.generation = cache'.generation) :
    j = j' ∧ caller = caller' ∧ repository = repository' ∧
      cache.topology = cache'.topology := by
  have hj : j = j' := by
    rcases Nat.lt_trichotomy j j' with hlt | heq | hlt
    · have hle := H.generation_le (Nat.succ_le_of_lt hlt)
      rw [h.generation_succ, hgeneration, h'.number] at hle
      omega
    · exact heq
    · have hle := H.generation_le (Nat.succ_le_of_lt hlt)
      rw [h'.generation_succ, ← hgeneration, h.number] at hle
      omega
  subst hj
  have hcaller : caller = caller' := by
    have hstep := h.step.symm.trans h'.step
    cases hstep
    rfl
  subst hcaller
  have hsource := h.source.symm.trans h'.source
  simp only [Option.some.injEq, Caller.binding.injEq, Inquiry.done.injEq,
    Except.ok.injEq] at hsource
  exact ⟨rfl, rfl, hsource.1, hsource.2⟩

/-- Every cache has been installed before, and the one that is published was
installed last, from the repository that is bound. -/
structure Published (H : History ρ) (n : Nat) : Prop where
  installed : ∀ cache ∈ (H.worker n).caches, ∃ j caller repository,
    j < n ∧ H.Installed j caller repository cache
  newest : ∀ cache, (H.worker n).cache? = some cache →
    cache.generation = (H.worker n).generation ∧
      ∃ j caller repository, j < n ∧
        H.Installed j caller repository cache ∧
        (H.worker n).bound = some repository

theorem exists_mem_of_fixed_eq {caches caches' : List SchemaCache}
    (h : caches'.map SchemaCache.fixed = caches.map SchemaCache.fixed)
    {cache : SchemaCache} (hcache : cache ∈ caches') :
    ∃ before ∈ caches, cache.fixed = before.fixed := by
  have hmem : cache.fixed ∈ caches'.map SchemaCache.fixed :=
    List.mem_map_of_mem hcache
  rw [h] at hmem
  obtain ⟨before, hbefore, heq⟩ := List.mem_map.1 hmem
  exact ⟨before, hbefore, heq.symm⟩

theorem exists_head_of_fixed_eq {caches caches' : List SchemaCache}
    (h : caches'.map SchemaCache.fixed = caches.map SchemaCache.fixed)
    {cache : SchemaCache} (hcache : caches'.head? = some cache) :
    ∃ before, caches.head? = some before ∧ cache.fixed = before.fixed := by
  have hhead : (caches.map SchemaCache.fixed).head? = some cache.fixed := by
    rw [← h, List.head?_map, hcache]
    rfl
  rw [List.head?_map] at hhead
  obtain ⟨before, hbefore, heq⟩ := Option.map_eq_some_iff.1 hhead
  exact ⟨before, hbefore, heq.symm⟩

theorem published_zero : H.Published 0 := by
  constructor
  · intro cache hcache
    rw [H.worker_zero] at hcache
    cases hcache
  · intro cache hcache
    rw [H.worker_zero] at hcache
    cases hcache

theorem published_succ {n : Nat} {label : Label ρ}
    (hlabel : H.steps[n]? = some label) (h : H.Published n) :
    H.Published (n + 1) := by
  rcases Worker.published_cases (H.step_worker hlabel) with
    ⟨id, repository, topology, rfl, hid, hbound, hgeneration, hcaches⟩ |
      ⟨hbound, hgeneration, hfixed, _⟩
  · have hinstalled : H.Installed n id repository
        { generation := (H.worker n).generation + 1, topology } :=
      ⟨hlabel, hid, rfl⟩
    constructor
    · intro cache hcache
      rw [hcaches] at hcache
      rcases List.mem_cons.1 hcache with rfl | hcache
      · exact ⟨n, id, repository, Nat.lt_succ_self n, hinstalled⟩
      · obtain ⟨j, caller, source, hj, hsource⟩ := h.installed cache hcache
        exact ⟨j, caller, source, Nat.lt_succ_of_lt hj, hsource⟩
    · intro cache hcache
      rw [Worker.cache?, hcaches] at hcache
      cases hcache
      exact ⟨hgeneration.symm, n, id, repository, Nat.lt_succ_self n,
        hinstalled, hbound⟩
  · constructor
    · intro cache hcache
      obtain ⟨before, hbefore, heq⟩ := exists_mem_of_fixed_eq hfixed hcache
      obtain ⟨j, caller, source, hj, hsource⟩ := h.installed before hbefore
      exact ⟨j, caller, source, Nat.lt_succ_of_lt hj, hsource.of_fixed heq⟩
    · intro cache hcache
      obtain ⟨before, hbefore, heq⟩ := exists_head_of_fixed_eq hfixed hcache
      obtain ⟨hnumber, j, caller, source, hj, hsource, hsame⟩ :=
        h.newest before hbefore
      refine ⟨?_, j, caller, source, Nat.lt_succ_of_lt hj,
        hsource.of_fixed heq, hbound.trans hsame⟩
      rw [hgeneration, ← hnumber]
      exact congrArg Prod.fst heq

theorem published (H : History ρ) {n : Nat} (hn : n ≤ H.steps.length) :
    H.Published n :=
  H.induction published_zero (fun _ _ hlabel ih => published_succ hlabel ih) hn

/-- No step loses a cache, or changes of it what is fixed. -/
theorem exists_mem_of_le {m n : Nat} (hmn : m ≤ n) {cache : SchemaCache}
    (hcache : cache ∈ (H.worker m).caches) :
    ∃ after ∈ (H.worker n).caches, after.fixed = cache.fixed := by
  refine H.kept_of_le
    (P := fun w => ∃ after ∈ w.caches, after.fixed = cache.fixed) ?_ hmn
    ⟨cache, hcache, rfl⟩
  rintro w w' label events hstep ⟨middle, hmiddle, heq⟩
  rcases Worker.published_cases hstep with
    ⟨_, _, _, _, _, _, _, hcaches⟩ | ⟨_, _, hfixed, _⟩
  · exact ⟨middle, hcaches ▸ List.mem_cons_of_mem _ hmiddle, heq⟩
  · obtain ⟨after, hafter, hsame⟩ :=
      exists_mem_of_fixed_eq hfixed.symm hmiddle
    exact ⟨after, hafter, hsame.symm.trans heq⟩

/-- A cache that has been installed is among the caches from then on. -/
theorem exists_mem_of_install {n j caller : Nat} (hj : j < n)
    (hstep : H.steps[j]? = some (.caller caller .install)) :
    ∃ cache ∈ (H.worker n).caches, ∃ repository,
      H.Installed j caller repository cache := by
  rcases Worker.published_cases (H.step_worker hstep) with
    ⟨id, repository, topology, heq, hid, _, _, hcaches⟩ | ⟨_, _, _, hother⟩
  · cases heq
    obtain ⟨cache, hcache, hfixed⟩ := exists_mem_of_le (Nat.succ_le_of_lt hj)
      (hcaches ▸ List.mem_cons_self)
    have hinstalled : H.Installed j caller repository
        { generation := (H.worker j).generation + 1, topology } :=
      ⟨hstep, hid, rfl⟩
    exact ⟨cache, hcache, repository, hinstalled.of_fixed hfixed⟩
  · exact absurd rfl (hother caller)

end History

end SchemaScope
