import SchemaScope.Proofs.Worker.Binding

/-!
Repositories whose answers do not change. Main statements: a bind of such a
repository ends with what its answers lead to, and once a refresh has written
what they say about columns, this is what the cache has until another one is
installed.
-/

namespace SchemaScope

theorem Label.eq_of_replyTo? {ρ : Type} {id : Nat} {label : Label ρ}
    {reply : Inquiry.Reply} (h : label.replyTo? id = some reply) :
    label = .caller id (.answered reply.call reply.outcome) := by
  unfold replyTo? at h
  split at h
  · split at h
    · rename_i heq
      cases h
      rw [heq]
    · cases h
  · cases h

theorem Label.eq_of_reply? {ρ : Type} {label : Label ρ}
    {reply : Inquiry.Reply} (h : label.reply? = some reply) :
    label = .loop (.answered reply.call reply.outcome) := by
  unfold reply? at h
  split at h
  · cases h
    rfl
  · cases h

namespace Worker

variable {ρ : Type} {w w' : Worker ρ} {events : List Event}

theorem cache?_updateCache {cache : SchemaCache} (h : w.cache? = some cache)
    (generation : Nat) (change : SchemaCache → SchemaCache) :
    (w.updateCache generation change).cache? =
      some (if cache.generation = generation then change cache else cache) := by
  obtain ⟨older, hcaches⟩ := List.head?_eq_some_iff.1 h
  rw [updateCache, hcaches]
  by_cases hgeneration : cache.generation = generation
  · simp [hgeneration, cache?]
  · simp [hgeneration, h]

/-- The published cache is this one, and has these columns. -/
def Publishes (w : Worker ρ) (installed : SchemaCache)
    (columns : ColumnIndex) : Prop :=
  ∃ cache, w.cache? = some cache ∧ cache.fixed = installed.fixed ∧
    cache.columns = columns

/-- What the loop leaves of the published cache. -/
theorem LoopMove.cache?_cases {move : LoopStep}
    (h : LoopMove w move w' events) {cache : SchemaCache}
    (hcache : w.cache? = some cache) :
    (∃ foreignKeys, w'.cache? = some { cache with foreignKeys }) ∨
      ∃ requests work columns, move = .writeColumns ∧
        w.loop = .columns requests work (.done (.ok columns)) ∧
        cache.generation = work.generation ∧
        w'.cache? = some { cache with columns } := by
  have hsame : (∃ foreignKeys, w.cache? = some { cache with foreignKeys }) :=
    ⟨cache.foreignKeys, hcache⟩
  cases h with
  | writeColumns requests work result hloop =>
      cases result with
      | error e => exact .inl hsame
      | ok columns =>
          have hwritten := cache?_updateCache hcache work.generation
            ({ · with columns })
          by_cases hgeneration : cache.generation = work.generation
          · rw [if_pos hgeneration] at hwritten
            exact .inr ⟨requests, work, columns, rfl, hloop, hgeneration,
              hwritten⟩
          · rw [if_neg hgeneration] at hwritten
            exact .inl ⟨cache.foreignKeys, hwritten⟩
  | writeForeignKeys requests work result hloop =>
      cases result with
      | error e => exact .inl hsame
      | ok foreignKeys =>
          have hwritten := cache?_updateCache hcache work.generation
            ({ · with foreignKeys })
          by_cases hgeneration : cache.generation = work.generation
          · rw [if_pos hgeneration] at hwritten
            exact .inl ⟨foreignKeys, hwritten⟩
          · rw [if_neg hgeneration] at hwritten
            exact .inl ⟨cache.foreignKeys, hwritten⟩
  | _ => exact .inl hsame

end Worker

namespace History

variable {ρ : Type} {H : History ρ} {repository : ρ}
  {answer : (call : Call) → Outcome call.Answer}

/-- Whoever asks the repository gets the answers that it always gives. -/
structure Answers (H : History ρ) (repository : ρ)
    (answer : (call : Call) → Outcome call.Answer) : Prop where
  callers : ∀ n id call outcome inquiry,
    H.steps[n]? = some (.caller id (.answered call outcome)) →
      (H.worker n).callers.get? id = some (.binding repository inquiry) →
        outcome = answer call
  loop : ∀ n call outcome work,
    H.steps[n]? = some (.loop (.answered call outcome)) →
      (H.worker n).loop.assignment? = some work →
        work.repository = repository → outcome = answer call

namespace Bind

variable {b : H.Bind}

/-- All that a bind is told comes from its repository. -/
theorem replies_eq (hanswers : H.Answers b.repository answer) {n : Nat}
    (hlast : n ≤ b.last) :
    ∀ reply ∈ H.repliesTo b.caller (b.first + 1) n,
      reply.outcome = answer reply.call := by
  intro reply hreply
  obtain ⟨m, label, hfirst, hmn, hlabel, hanswered⟩ :=
    H.exists_step_of_mem_filterMap hreply
  obtain rfl := Label.eq_of_replyTo? hanswered
  obtain ⟨phase, hphase, hcourse⟩ := b.exists_course hfirst (by omega)
  have hmove := Worker.callerMove_of_step (H.step_worker hlabel)
  generalize H.worker (m + 1) = next at hmove
  generalize H.events m = events at hmove
  cases hmove with
  | answered source inquiry _ _ _ hid =>
      obtain rfl : .binding source inquiry = phase :=
        Option.some.inj (hid.symm.trans hphase)
      exact hanswers.callers m _ _ _ inquiry hlabel (hcourse.1 ▸ hid)

/-- A bind ends with what the answers of its repository lead to. -/
theorem Returns.exists_topology {result : Outcome Unit}
    (h : b.Returns result) (hanswers : H.Answers b.repository answer)
    {topology : Topology} (hrun : Topology.inquiry.run answer = .ok topology) :
    result = .ok () ∧ ∃ j cache, b.first < j ∧ j < b.last ∧
      H.Installed j b.caller b.repository cache ∧
      cache.topology = topology := by
  have hled : ∀ {inquiry}, Topology.inquiry.resumeAll? b.replies =
      some inquiry → inquiry.run answer = .ok topology := by
    intro inquiry hinquiry
    rw [Inquiry.run_of_resumeAll? hinquiry
      (replies_eq hanswers (Nat.le_refl _)), hrun]
  rcases h.cases with ⟨source, e, rfl, hphase, _⟩ | ⟨_, rfl, _⟩
  · obtain ⟨phase, heq, hcourse⟩ := b.exists_course b.first_lt (Nat.le_refl _)
    obtain rfl : phase = .binding source (.done (.error e)) :=
      Option.some.inj (heq.symm.trans hphase)
    cases hled hcourse.2
  · obtain ⟨j, cache, hfirst, hlast, hinstalled, hinquiry⟩ :=
      h.exists_installed
    exact ⟨rfl, j, cache, hfirst, hlast, hinstalled,
      Except.ok.inj (hled hinquiry)⟩

end Bind

/-- What the loop has been told about columns is what the repository says about
them. -/
theorem Answers.result_eq (hanswers : H.Answers repository answer) {n : Nat}
    (hn : n ≤ H.steps.length) {requests : Nat} {work : Assignment ρ}
    {result : Outcome ColumnIndex}
    (hloop : (H.worker n).loop = .columns requests work (.done result))
    (hwork : work.repository = repository) :
    result = (ColumnIndex.inquiry work.schemas).run answer := by
  have hprogress := H.progress hn
  rw [hloop] at hprogress
  obtain ⟨_, b, _, _, hbegun, hinquiry⟩ := hprogress
  refine Inquiry.run_of_resumeAll? hinquiry ?_
  intro reply hreply
  obtain ⟨m, label, hbm, hmn, hlabel, hanswered⟩ :=
    H.exists_step_of_mem_filterMap hreply
  obtain rfl := Label.eq_of_reply? hanswered
  exact hanswers.loop m _ _ work hlabel
    (hbegun.atWork m hbm (Nat.le_of_lt hmn)) hwork

theorem Begun.generation_eq {b n : Nat} {work : Assignment ρ}
    (h : H.Begun b work n) : (H.worker b).generation = work.generation := by
  cases hfound : (H.worker b).cache? with
  | none =>
      have hassigned := h.assigned
      simp [Worker.assignment?, hfound] at hassigned
  | some cache =>
      obtain ⟨hnumber, _, _, _, _, _, hbound⟩ :=
        (H.published (H.le_length_of_step h.step)).newest cache hfound
      have hassigned := h.assigned
      simp only [Worker.assignment?, hbound, hfound,
        Option.some.injEq] at hassigned
      rw [← hassigned, ← hnumber]

namespace Installed

variable {j caller : Nat} {installed : SchemaCache}

/-- A cache stays the published one until another one is installed. -/
theorem exists_published (h : H.Installed j caller repository installed)
    {n : Nat} (hjn : j < n)
    (hlast : ∀ k id, j < k → k < n →
      H.steps[k]? ≠ some (.caller id .install)) :
    ∃ cache, (H.worker n).cache? = some cache ∧
      cache.fixed = installed.fixed := by
  refine H.kept_between
    (P := fun w => ∃ cache, w.cache? = some cache ∧
      cache.fixed = installed.fixed) hjn ?_ ?_
  · rintro k label hjk hkn hlabel ⟨cache, hcache, hfixed⟩
    rcases Worker.published_cases (H.step_worker hlabel) with
      ⟨id, _, _, rfl, _⟩ | ⟨_, _, hsame, _⟩
    · exact absurd hlabel (hlast k id hjk hkn)
    · obtain ⟨after, hafter, heq⟩ := exists_head_of_fixed_eq hsame.symm hcache
      exact ⟨after, hafter, heq.symm.trans hfixed⟩
  · rcases Worker.published_cases (H.step_worker h.step) with
      ⟨id, _, topology, heq, hid, _, _, hcaches⟩ | ⟨_, _, _, hother⟩
    · cases heq
      have hsource := hid.symm.trans h.source
      simp only [Option.some.injEq, Caller.binding.injEq, Inquiry.done.injEq,
        Except.ok.injEq] at hsource
      refine ⟨{ generation := (H.worker j).generation + 1, topology },
        by rw [Worker.cache?, hcaches, List.head?_cons], ?_⟩
      exact Prod.ext h.number.symm hsource.2
    · exact absurd rfl (hother caller)

/-- The loop is told about the columns of a cache by the repository that the
cache comes from. -/
theorem result_eq (h : H.Installed j caller repository installed)
    (hanswers : H.Answers repository answer) {n : Nat}
    (hn : n ≤ H.steps.length) {requests : Nat} {work : Assignment ρ}
    {result : Outcome ColumnIndex}
    (hloop : (H.worker n).loop = .columns requests work (.done result))
    (hwork : installed.generation = work.generation) :
    result = (ColumnIndex.inquiry installed.topology.schemas).run answer := by
  have hprogress := H.progress hn
  rw [hloop] at hprogress
  obtain ⟨_, b, _, _, hbegun, _⟩ := hprogress
  obtain rfl := h.assignment_eq (H.le_length_of_step hbegun.step)
    hbegun.assigned hwork
  exact hanswers.result_eq hn hloop rfl

variable {columns : ColumnIndex}

theorem publishes_succ (h : H.Installed j caller repository installed)
    (hanswers : H.Answers repository answer)
    (hrun : (ColumnIndex.inquiry installed.topology.schemas).run answer =
      .ok columns) {n : Nat} {label : Label ρ}
    (hlabel : H.steps[n]? = some label)
    (hother : ∀ id, label ≠ .caller id .install)
    (hn : (H.worker n).Publishes installed columns) :
    (H.worker (n + 1)).Publishes installed columns := by
  have hstep := H.step_worker hlabel
  obtain ⟨cache, hcache, hfixed, hcolumns⟩ := hn
  cases label with
  | caller id move =>
      have hmove : move ≠ .install := fun heq => hother id (heq ▸ rfl)
      obtain ⟨_, hcaches, _⟩ :=
        (Worker.callerMove_of_step hstep).published_eq hmove
      exact ⟨cache, by rw [Worker.cache?, hcaches]; exact hcache, hfixed,
        hcolumns⟩
  | loop move =>
      rcases (Worker.loopMove_of_step hstep).cache?_cases hcache with
        ⟨_, hafter⟩ | ⟨_, _, written, _, hloop, hgeneration, hafter⟩
      · exact ⟨_, hafter, hfixed, hcolumns⟩
      · have hnumber : installed.generation = cache.generation :=
          (congrArg Prod.fst hfixed).symm
        have hwritten := h.result_eq hanswers (H.le_length_of_step hlabel) hloop
          (hnumber.trans hgeneration)
        rw [hrun] at hwritten
        exact ⟨_, hafter, hfixed, Except.ok.inj hwritten⟩
  | drop =>
      rw [(Worker.eq_of_drop hstep).1]
      exact ⟨cache, hcache, hfixed, hcolumns⟩

/-- What a refresh writes about the columns of the published cache is what the
repository says about them. -/
theorem publishes_of_writeColumns
    (h : H.Installed j caller repository installed)
    (hanswers : H.Answers repository answer)
    (hrun : (ColumnIndex.inquiry installed.topology.schemas).run answer =
      .ok columns) {c : Nat} {work : Assignment ρ} {cache : SchemaCache}
    (hcache : (H.worker c).cache? = some cache)
    (hfixed : cache.fixed = installed.fixed)
    (hlabel : H.steps[c]? = some (.loop .writeColumns))
    (hatWork : (H.worker c).loop.assignment? = some work)
    (hwork : work.generation = installed.generation) :
    (H.worker (c + 1)).Publishes installed columns := by
  have hmove := Worker.loopMove_of_step (H.step_worker hlabel)
  generalize H.worker (c + 1) = next at hmove ⊢
  generalize H.events c = events at hmove
  cases hmove with
  | writeColumns requests assigned result hloop =>
      rw [hloop] at hatWork
      obtain rfl : assigned = work := Option.some.inj hatWork
      obtain rfl := h.result_eq hanswers (H.le_length_of_step hlabel) hloop
        hwork.symm
      have hafter := Worker.cache?_updateCache hcache assigned.generation
        ({ · with columns })
      have hnumber : cache.generation = assigned.generation :=
        (congrArg Prod.fst hfixed).trans hwork.symm
      rw [if_pos hnumber] at hafter
      rw [hrun]
      exact ⟨_, hafter, hfixed, rfl⟩

/-- Once a refresh of a cache is over, the cache has the columns that the
repository describes until another cache is installed. -/
theorem publishes_of_finished (h : H.Installed j caller repository installed)
    (hanswers : H.Answers repository answer)
    (hrun : (ColumnIndex.inquiry installed.topology.schemas).run answer =
      .ok columns) {n b : Nat} {work : Assignment ρ}
    (hlast : ∀ k id, j < k → k < n →
      H.steps[k]? ≠ some (.caller id .install))
    (hfinished : H.Finished b work n)
    (hwork : work.generation = installed.generation) :
    (H.worker n).Publishes installed columns := by
  obtain ⟨c, d, hbc, hcd, hdn, hbegun, hwrites, _⟩ := hfinished
  have hjb : j < b := by
    by_contra hle
    have hbefore := H.generation_le (Nat.le_of_not_lt hle)
    rw [hbegun.generation_eq, hwork, h.number] at hbefore
    omega
  have hwritten : (H.worker (c + 1)).Publishes installed columns := by
    obtain ⟨cache, hcache, hfixed⟩ := h.exists_published
      (Nat.lt_trans hjb hbc) fun k id hjk hkc => hlast k id hjk (by omega)
    exact h.publishes_of_writeColumns hanswers hrun hcache hfixed hwrites
      (hbegun.atWork c hbc (Nat.le_of_lt hcd)) hwork
  refine H.kept_between (P := fun w => w.Publishes installed columns)
    (Nat.succ_le_of_lt (Nat.lt_trans hcd hdn)) ?_ hwritten
  intro k label hck hkn hlabel hkept
  refine h.publishes_succ hanswers hrun hlabel ?_ hkept
  rintro id rfl
  exact hlast k id (by omega) hkn hlabel

end Installed

end History

end SchemaScope
