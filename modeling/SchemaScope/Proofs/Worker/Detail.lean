import SchemaScope.Proofs.Worker.Refreshes

/-!
Where detail comes from. A cache shows no columns, or all that one refresh has
been told by the repository the cache comes from; the same goes for its foreign
keys. Caches that have been replaced are no exception.
-/

namespace SchemaScope

namespace Worker

variable {ρ : Type} {w w' : Worker ρ} {events : List Event}

/-- An update changes no cache but the one with the given number. -/
theorem mem_updateCache {generation : Nat}
    {change : SchemaCache → SchemaCache} {cache : SchemaCache}
    (hcache : cache ∈ (w.updateCache generation change).caches) :
    cache ∈ w.caches ∨ ∃ before ∈ w.caches,
      before.generation = generation ∧ cache = change before := by
  unfold updateCache at hcache
  split at hcache
  · rename_i newest older hcaches
    split at hcache
    · rename_i hgeneration
      rcases List.mem_cons.1 hcache with rfl | hcache
      · exact .inr ⟨newest, by simp [hcaches], hgeneration, rfl⟩
      · exact .inl (by simp [hcaches, hcache])
    · exact .inl hcache
  · exact .inl hcache

/-- What is written about columns is the result of an inquiry, and goes into
the cache that the inquiry was for. -/
theorem LoopMove.mem_caches {move : LoopStep}
    (h : LoopMove w move w' events) {cache : SchemaCache}
    (hcache : cache ∈ w'.caches) :
    cache ∈ w.caches ∨
      (∃ requests work columns, ∃ before ∈ w.caches,
        move = .writeColumns ∧
        w.loop = .columns requests work (.done (.ok columns)) ∧
        before.generation = work.generation ∧
        cache = { before with columns }) ∨
      ∃ requests work foreignKeys, ∃ before ∈ w.caches,
        move = .writeForeignKeys ∧
        w.loop = .foreignKeys requests work (.done (.ok (some foreignKeys))) ∧
        before.generation = work.generation ∧
        cache = { before with foreignKeys } := by
  cases h with
  | writeColumns requests work result hloop =>
      cases result with
      | error e => exact .inl hcache
      | ok columns =>
          rcases mem_updateCache hcache with hsame | ⟨before, hbefore, hrest⟩
          · exact .inl hsame
          · exact .inr (.inl ⟨requests, work, columns, before, hbefore, rfl,
              hloop, hrest⟩)
  | writeForeignKeys requests work result hloop =>
      cases result with
      | error e => exact .inl hcache
      | ok foreignKeys =>
          rcases mem_updateCache hcache with hsame | ⟨before, hbefore, hrest⟩
          · exact .inl hsame
          · exact .inr (.inr ⟨requests, work, foreignKeys, before, hbefore, rfl,
              hloop, hrest⟩)
  | _ => exact .inl hcache

end Worker

namespace History

variable {ρ : Type} {H : History ρ}

/-- These are the columns that a refresh has learnt from the answers it was
given between finding its assignment and writing them. -/
def ColumnsLearnt (H : History ρ) (work : Assignment ρ) (columns : ColumnIndex)
    (n : Nat) : Prop :=
  ∃ b c, c < n ∧ H.Begun b work c ∧ H.steps[c]? = some (.loop .writeColumns) ∧
    ColumnIndex.LearntFrom work.schemas (H.replies (b + 1) c) columns

/-- These are the foreign keys that a refresh has learnt from the answers it
was given between writing its columns and writing them. -/
def ForeignKeysLearnt (H : History ρ) (work : Assignment ρ)
    (foreignKeys : ForeignKeyIndex) (n : Nat) : Prop :=
  ∃ b c d, d < n ∧ b < c ∧ c < d ∧ H.Begun b work d ∧
    H.steps[c]? = some (.loop .writeColumns) ∧
    H.steps[d]? = some (.loop .writeForeignKeys) ∧
    ForeignKeyIndex.LearntFrom work.schemas (H.replies (c + 1) d) foreignKeys

theorem ColumnsLearnt.succ {work : Assignment ρ} {columns : ColumnIndex}
    {n : Nat} (h : H.ColumnsLearnt work columns n) :
    H.ColumnsLearnt work columns (n + 1) := by
  obtain ⟨b, c, hcn, hrest⟩ := h
  exact ⟨b, c, Nat.lt_succ_of_lt hcn, hrest⟩

theorem ForeignKeysLearnt.succ {work : Assignment ρ}
    {foreignKeys : ForeignKeyIndex} {n : Nat}
    (h : H.ForeignKeysLearnt work foreignKeys n) :
    H.ForeignKeysLearnt work foreignKeys (n + 1) := by
  obtain ⟨b, c, d, hdn, hrest⟩ := h
  exact ⟨b, c, d, Nat.lt_succ_of_lt hdn, hrest⟩

/-- A cache comes from a repository, and so does whatever detail it shows. -/
structure Traced (H : History ρ) (repository : ρ) (cache : SchemaCache)
    (n : Nat) : Prop where
  installed : ∃ j < n, ∃ caller, H.Installed j caller repository cache
  columns : cache.columns = .empty ∨
    H.ColumnsLearnt ⟨repository, cache.topology.schemas, cache.generation⟩
      cache.columns n
  foreignKeys : cache.foreignKeys = .empty ∨
    H.ForeignKeysLearnt ⟨repository, cache.topology.schemas, cache.generation⟩
      cache.foreignKeys n

theorem Traced.succ {repository : ρ} {cache : SchemaCache} {n : Nat}
    (h : H.Traced repository cache n) : H.Traced repository cache (n + 1) := by
  obtain ⟨j, hjn, hinstalled⟩ := h.installed
  exact ⟨⟨j, Nat.lt_succ_of_lt hjn, hinstalled⟩,
    h.columns.imp_right ColumnsLearnt.succ,
    h.foreignKeys.imp_right ForeignKeysLearnt.succ⟩

theorem traced_of_install {n caller : Nat} {repository : ρ}
    {topology : Topology}
    (hlabel : H.steps[n]? = some (.caller caller .install))
    (hsource : (H.worker n).callers.get? caller =
      some (.binding repository (.done (.ok topology)))) :
    H.Traced repository
      { generation := (H.worker n).generation + 1, topology } (n + 1) :=
  ⟨⟨n, Nat.lt_succ_self n, caller, hlabel, hsource, rfl⟩, .inl rfl, .inl rfl⟩

/-- Columns are written that have been learnt for the very cache they go
into. -/
theorem Traced.writeColumns {n requests : Nat} {repository : ρ}
    {before : SchemaCache} {work : Assignment ρ} {columns : ColumnIndex}
    (h : H.Traced repository before n)
    (hlabel : H.steps[n]? = some (.loop .writeColumns))
    (hloop : (H.worker n).loop =
      .columns requests work (.done (.ok columns)))
    (hgeneration : before.generation = work.generation) :
    H.Traced repository { before with columns } (n + 1) := by
  have hn := H.le_length_of_step hlabel
  have hprogress := H.progress hn
  rw [hloop] at hprogress
  obtain ⟨_, b, _, _, hbegun, hinquiry⟩ := hprogress
  obtain ⟨j, hjn, caller, hinstalled⟩ := h.installed
  obtain rfl := hinstalled.assignment_eq (H.le_length_of_step hbegun.step)
    hbegun.assigned hgeneration
  exact ⟨⟨j, Nat.lt_succ_of_lt hjn, caller, hinstalled.of_fixed rfl⟩,
    .inr ⟨b, n, Nat.lt_succ_self n, hbegun, hlabel,
      ColumnIndex.learntFrom_of_inquiry hinquiry⟩,
    h.foreignKeys.imp_right ForeignKeysLearnt.succ⟩

/-- Foreign keys are written that have been learnt for the very cache they go
into. -/
theorem Traced.writeForeignKeys {n requests : Nat} {repository : ρ}
    {before : SchemaCache} {work : Assignment ρ}
    {foreignKeys : ForeignKeyIndex} (h : H.Traced repository before n)
    (hlabel : H.steps[n]? = some (.loop .writeForeignKeys))
    (hloop : (H.worker n).loop =
      .foreignKeys requests work (.done (.ok (some foreignKeys))))
    (hgeneration : before.generation = work.generation) :
    H.Traced repository { before with foreignKeys } (n + 1) := by
  have hn := H.le_length_of_step hlabel
  have hprogress := H.progress hn
  rw [hloop] at hprogress
  obtain ⟨_, b, c, _, _, hbegun, hbc, hcn, hc, hinquiry⟩ := hprogress
  obtain ⟨j, hjn, caller, hinstalled⟩ := h.installed
  obtain rfl := hinstalled.assignment_eq (H.le_length_of_step hbegun.step)
    hbegun.assigned hgeneration
  exact ⟨⟨j, Nat.lt_succ_of_lt hjn, caller, hinstalled.of_fixed rfl⟩,
    h.columns.imp_right ColumnsLearnt.succ,
    .inr ⟨b, c, n, Nat.lt_succ_self n, hbc, hcn, hbegun, hc, hlabel,
      ForeignKeyIndex.learntFrom_of_inquiry hinquiry⟩⟩

theorem traced_succ {n : Nat} {label : Label ρ}
    (hlabel : H.steps[n]? = some label)
    (h : ∀ cache ∈ (H.worker n).caches,
      ∃ repository, H.Traced repository cache n) :
    ∀ cache ∈ (H.worker (n + 1)).caches,
      ∃ repository, H.Traced repository cache (n + 1) := by
  intro cache hcache
  have hstep := H.step_worker hlabel
  have hkept : cache ∈ (H.worker n).caches →
      ∃ repository, H.Traced repository cache (n + 1) := by
    intro hsame
    obtain ⟨repository, htraced⟩ := h cache hsame
    exact ⟨repository, htraced.succ⟩
  cases label with
  | caller id move =>
      by_cases hinstall : move = .install
      · subst hinstall
        rcases Worker.published_cases hstep with
          ⟨_, repository, topology, heq, hid, _, _, hcaches⟩ | ⟨_, _, _, hother⟩
        · cases heq
          rw [hcaches] at hcache
          rcases List.mem_cons.1 hcache with rfl | hsame
          · exact ⟨repository, traced_of_install hlabel hid⟩
          · exact hkept hsame
        · exact absurd rfl (hother id)
      · obtain ⟨_, hcaches, _⟩ :=
          (Worker.callerMove_of_step hstep).published_eq hinstall
        exact hkept (hcaches ▸ hcache)
  | loop move =>
      rcases (Worker.loopMove_of_step hstep).mem_caches hcache with
        hsame |
        ⟨_, _, _, before, hbefore, rfl, hloop, hgeneration, rfl⟩ |
        ⟨_, _, _, before, hbefore, rfl, hloop, hgeneration, rfl⟩
      · exact hkept hsame
      · obtain ⟨repository, htraced⟩ := h before hbefore
        exact ⟨repository, htraced.writeColumns hlabel hloop hgeneration⟩
      · obtain ⟨repository, htraced⟩ := h before hbefore
        exact ⟨repository, htraced.writeForeignKeys hlabel hloop hgeneration⟩
  | drop =>
      rw [(Worker.eq_of_drop hstep).1] at hcache
      exact hkept hcache

/-- At all times every cache that was ever installed shows no columns, or the
columns that one refresh has learnt for it from the repository it comes from,
and no foreign keys or such foreign keys. -/
theorem exists_traced (H : History ρ) {n : Nat} (hn : n ≤ H.steps.length) :
    (∀ cache ∈ (H.worker n).caches,
      ∃ repository, H.Traced repository cache n) ∧
      ∀ j < n, ∀ caller, H.steps[j]? = some (.caller caller .install) →
        ∃ cache ∈ (H.worker n).caches,
          ∃ repository, H.Installed j caller repository cache := by
  constructor
  · refine H.induction
      (P := fun n => ∀ cache ∈ (H.worker n).caches,
        ∃ repository, H.Traced repository cache n) ?_
      (fun _ _ hlabel ih => traced_succ hlabel ih) hn
    intro cache hcache
    rw [H.worker_zero] at hcache
    cases hcache
  · intro j hjn caller hstep
    exact exists_mem_of_install hjn hstep

namespace DetailWitness

/-- A caller binds a repository with one schema. -/
def bind (id : Nat) (repository : String) : List (Label String) :=
  [.bind repository, .answered .currentDatabase (.ok repository),
    .answered .databases (.ok [repository]),
    .answered .currentSchema (.ok "main"),
    .answered .schemas (.ok ["main"]),
    .answered .schemaTables (.ok [("main", ["users"])]), .install, .count,
    .send].map (.caller id)

/-- The column that a repository has. -/
def column (repository : String) : Column where
  id := ⟨"main", "users", "id"⟩
  dataType := repository

/-- The foreign key that a repository has. -/
def relation (repository : String) : Relation :=
  .single ⟨⟨"main", "users", "id"⟩, ⟨"main", repository, "id"⟩⟩

/-- A refresh up to the columns. -/
def firstHalf (repository : String) : List (Label String) :=
  [.take, .readRequests, .begin,
    .answered .databaseColumns (.ok [column repository]), .writeColumns].map
    .loop

/-- A refresh from the columns on. -/
def secondHalf (repository : String) : List (Label String) :=
  [.answered (.schemaForeignKeys "main") (.ok [relation repository]),
    .writeForeignKeys, .countRun, .complete].map .loop

/-- A second repository is bound while the first one is being refreshed. -/
def steps : List (Label String) :=
  bind 0 "first" ++ firstHalf "first" ++ bind 1 "second" ++
    secondHalf "first" ++ firstHalf "second" ++ secondHalf "second"

def history : History String := ⟨steps, rfl⟩

def topology (repository : String) : Topology :=
  Topology.ofAnswers (some repository) [repository] "main" ["main"]
    [("main", ["users"])]

/-- The cache that has been replaced has got no foreign keys. -/
def replaced : SchemaCache where
  generation := 1
  topology := topology "first"
  columns := ColumnIndex.ofColumns [column "first"]

/-- The cache that has replaced it. -/
def published : SchemaCache where
  generation := 2
  topology := topology "second"
  columns := ColumnIndex.ofColumns [column "second"]
  foreignKeys :=
    (ForeignKeyIndex.empty.insert? "main" (relation "second")).getD .empty

theorem exists_traced_rebound :
    36 ≤ history.steps.length ∧
      (history.worker 36).caches = [published, replaced] ∧
      (∃ repository, history.Traced repository published 36) ∧
      ∃ repository, history.Traced repository replaced 36 := by
  have hlength : 36 ≤ history.steps.length := by decide
  have hcaches : (history.worker 36).caches = [published, replaced] := rfl
  obtain ⟨htraced, _⟩ := exists_traced history hlength
  rw [hcaches] at htraced
  exact ⟨hlength, hcaches, htraced published (by simp),
    htraced replaced (by simp)⟩

end DetailWitness

end History

end SchemaScope
