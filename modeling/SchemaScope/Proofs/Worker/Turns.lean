import SchemaScope.Proofs.Worker.Absence
import SchemaScope.Worker.Turns

/-!
What a caller comes to in one turn when repositories answer at once: a bind, a
request and a call to stop are each through with all their steps. What becomes
of a worker does not depend on who is ready for a turn.
-/

namespace SchemaScope

namespace Turns

variable {σ ρ : Type} {t t' : Turns σ ρ}

/-- The same, with nobody ready. -/
def sleep (t : Turns σ ρ) : Turns σ ρ := { t with ready := [] }

theorem sleep_wakeLoop (t : Turns σ ρ) : t.wakeLoop.sleep = t.sleep := by
  unfold wakeLoop
  split
  · split
    · rfl
    · rfl
  · rfl

theorem perform_of_step {label : Label ρ} {w : Worker ρ} {events : List Event}
    (h : t.worker.step label = some (w, events)) :
    t.perform label =
      wakeLoop { t with worker := w, events := t.events ++ events } := by
  rw [perform, h]

theorem perform_of_none {label : Label ρ} (h : t.worker.step label = none) :
    t.perform label = t := by
  rw [perform, h]

theorem sleep_perform {label : Label ρ} {w : Worker ρ} {events : List Event}
    (h : t.worker.step label = some (w, events)) :
    (t.perform label).sleep =
      { t.sleep with worker := w, events := t.events ++ events } := by
  rw [perform_of_step h, sleep_wakeLoop]
  rfl

/-- Whoever is ready, the worker is the same. -/
theorem worker_of_sleep {u : Turns σ ρ} (h : t.sleep = u) :
    t.worker = u.worker := by
  have hworker := congrArg Turns.worker h
  exact hworker

theorem worker_perform {label : Label ρ} {w : Worker ρ} {events : List Event}
    (h : t.worker.step label = some (w, events)) :
    (t.perform label).worker = w :=
  worker_of_sleep (sleep_perform h)

theorem performAll_cons (t : Turns σ ρ) (label : Label ρ)
    (rest : List (Label ρ)) :
    t.performAll (label :: rest) = (t.perform label).performAll rest := rfl

/-- Steps that can be taken one after the other are taken. -/
theorem sleep_performAll {labels : List (Label ρ)} {w : Worker ρ}
    {events : List Event} (h : t.worker.run labels = some (w, events)) :
    (t.performAll labels).sleep =
      { t.sleep with worker := w, events := t.events ++ events } := by
  induction labels generalizing t events with
  | nil =>
      cases h
      rw [List.append_nil]
      rfl
  | cons label rest ih =>
      obtain ⟨next, now, later, hstep, hrest, rfl⟩ :=
        Worker.run_cons_eq_some_iff.1 h
      have hevents := congrArg Turns.events (sleep_perform hstep)
      change (t.perform label).events = t.events ++ now at hevents
      rw [performAll_cons, ih ((worker_perform hstep).symm ▸ hrest), hevents,
        sleep_perform hstep, List.append_assoc]

theorem worker_performAll {labels : List (Label ρ)} {w : Worker ρ}
    {events : List Event} (h : t.worker.run labels = some (w, events)) :
    (t.performAll labels).worker = w :=
  worker_of_sleep (sleep_performAll h)

theorem same_of_sleep (h : t.sleep = t'.sleep) :
    t.world = t'.world ∧ t.worker = t'.worker ∧ t.events = t'.events := by
  have hworld := congrArg Turns.world h
  have hworker := congrArg Turns.worker h
  have hevents := congrArg Turns.events h
  exact ⟨hworld, hworker, hevents⟩

/-! Whether anybody is ready makes no difference to a step. -/

section Congruence

variable (host : Host σ ρ)

theorem perform_congr (h : t.sleep = t'.sleep) (label : Label ρ) :
    (t.perform label).sleep = (t'.perform label).sleep := by
  obtain ⟨_, hworker, hevents⟩ := same_of_sleep h
  cases hstep : t.worker.step label with
  | none => rw [perform_of_none hstep, perform_of_none (hworker ▸ hstep), h]
  | some next =>
      rw [sleep_perform hstep, sleep_perform (hworker ▸ hstep), h, hevents]

theorem performAll_congr (h : t.sleep = t'.sleep) (labels : List (Label ρ)) :
    (t.performAll labels).sleep = (t'.performAll labels).sleep := by
  induction labels generalizing t t' with
  | nil => exact h
  | cons label rest ih => exact ih (perform_congr h label)

theorem consult_congr {α : Type} (party : Party) (repository : ρ)
    (inquiry : Inquiry α) (h : t.sleep = t'.sleep) :
    (t.consult host party repository inquiry).sleep =
      (t'.consult host party repository inquiry).sleep := by
  induction inquiry generalizing t t' with
  | done result => exact h
  | ask call next ih =>
      obtain ⟨hworld, _⟩ := same_of_sleep h
      simp only [consult, hworld]
      generalize host.receive t'.world party repository call = received
      obtain ⟨world, receipt⟩ := received
      have hsame : sleep { t with world } = sleep { t' with world } :=
        congrArg (fun t => { t with world }) h
      cases receipt with
      | held => exact hsame
      | brokenOff => exact perform_congr hsame _
      | answered outcome => exact ih outcome (perform_congr hsame _)

theorem bind_congr (h : t.sleep = t'.sleep) (id : Nat) (repository : ρ) :
    (t.bind host id repository).sleep = (t'.bind host id repository).sleep := by
  have hbegun := perform_congr h (.caller id (.bind repository))
  simp only [bind]
  generalize t.perform (.caller id (.bind repository)) = s at hbegun ⊢
  generalize t'.perform (.caller id (.bind repository)) = s' at hbegun ⊢
  obtain ⟨_, hworker, _⟩ := same_of_sleep hbegun
  simp only [continueBind, hworker]
  split
  · exact performAll_congr (consult_congr host _ _ _ hbegun) _
  · exact hbegun

end Congruence

theorem sleep_request {id : Nat} (hid : t.worker.callers.get? id = none) :
    (t.request id).sleep =
      { t.sleep with
        worker := { t.worker with
          requested := t.worker.requested + 1 }.signalled
        events := t.events ++ [.sent id] } :=
  sleep_performAll (Worker.run_request hid)

theorem sleep_stop {id : Nat} (hid : t.worker.callers.get? id = none)
    (hdismissed : t.worker.dismissed = false) :
    (t.stop id).sleep =
      { t.sleep with
        worker := { t.worker with
          dismissed := true, stopped := true, shutdown := true }
        events := t.events ++ [.stopped id] } :=
  sleep_performAll (Worker.run_stop hid hdismissed)

theorem sleep_stop_again {id : Nat} (hid : t.worker.callers.get? id = none)
    (hdismissed : t.worker.dismissed = true) :
    (t.stop id).sleep =
      { t.sleep with
        events := t.events ++ [.warning .stoppedTwice, .stopped id] } := by
  have hstop := (Worker.CallerMove.stopAgain hid hdismissed).step_eq
  have hmark : (t.perform (.caller id .stop)).worker.step (.caller id .mark) =
      none := by
    simp [worker_perform hstop, Worker.step, hid, Worker.arrive]
  have hdismiss : (t.perform (.caller id .stop)).worker.step
      (.caller id .dismiss) = none := by
    simp [worker_perform hstop, Worker.step, hid, Worker.arrive]
  rw [stop, performAll_cons, performAll_cons, perform_of_none hmark,
    performAll_cons, perform_of_none hdismiss]
  exact sleep_perform hstop

theorem worker_request {id : Nat} (hid : t.worker.callers.get? id = none) :
    (t.request id).worker =
      { t.worker with requested := t.worker.requested + 1 }.signalled :=
  worker_of_sleep (sleep_request hid)

/-- A call to stop touches nothing but what it says. -/
theorem worker_stop {id : Nat} (hid : t.worker.callers.get? id = none) :
    ∃ dismissed stopped shutdown, (t.stop id).worker =
      { t.worker with dismissed, stopped, shutdown } := by
  cases hdismissed : t.worker.dismissed with
  | true =>
      have hworker := worker_of_sleep (sleep_stop_again hid hdismissed)
      exact ⟨t.worker.dismissed, t.worker.stopped, t.worker.shutdown, hworker⟩
  | false =>
      have hworker := worker_of_sleep (sleep_stop hid hdismissed)
      exact ⟨true, true, true, hworker⟩

/-! What a caller does in one turn. -/

section Callers

variable {t : Turns Unit Repository} {id : Nat} {repository : Repository}

/-- A caller that is asking gets all its answers at once. -/
theorem exists_consult {inquiry : Inquiry Topology}
    (hid : t.worker.callers.get? id = some (.binding repository inquiry)) :
    ∃ w, (t.consult .ofRepositories (.caller id) repository inquiry).sleep =
        { t.sleep with worker := w } ∧
      w.leave id = t.worker.leave id ∧
      w.callers.get? id =
        some (.binding repository (.done (inquiry.run repository.answer))) := by
  induction inquiry generalizing t with
  | done result => exact ⟨t.worker, rfl, rfl, hid⟩
  | ask call next ih =>
      have hnext : (Inquiry.ask call next).resume? call
          (repository.answer call) = some (next (repository.answer call)) := by
        simp [Inquiry.resume?]
      have hstep := (Worker.CallerMove.answered repository _ call _ _ hid
        hnext).step_eq
      have hworker := worker_perform hstep
      have hphase : (t.perform (.caller id (.answered call
          (repository.answer call)))).worker.callers.get? id =
            some (.binding repository (next (repository.answer call))) := by
        rw [hworker, Worker.get?_goOn_self]
      obtain ⟨w, hsleep, hleave, hdone⟩ := ih (repository.answer call) hphase
      refine ⟨w, ?_, ?_, hdone⟩
      · rw [sleep_perform hstep, List.append_nil] at hsleep
        exact hsleep
      · rw [hleave, hworker, Worker.leave_goOn_self]

/-- What a caller does with the result of its questions. -/
def conclusion (id : Nat) : List (Label Repository) :=
  [.caller id .install, .caller id .count, .caller id .send,
    .caller id .giveUp]

/-- A bind that is let in gets the result of its questions. -/
theorem exists_bind (repository : Repository)
    (hid : t.worker.callers.get? id = none)
    (hopen : t.worker.stopped = false) :
    ∃ w, (t.bind .ofRepositories id repository).sleep =
        (performAll { t with worker := w } (conclusion id)).sleep ∧
      w.leave id = t.worker ∧
      w.callers.get? id = some (.binding repository
        (.done (Topology.inquiry.run repository.answer))) := by
  have hstep := (Worker.CallerMove.bind repository hid hopen).step_eq
  have hworker := worker_perform hstep
  have hphase : (t.perform (.caller id (.bind repository))).worker.callers.get?
      id = some (.binding repository Topology.inquiry) := by
    rw [hworker, Worker.get?_goOn_self]
  obtain ⟨w, hsleep, hleave, hdone⟩ := exists_consult hphase
  rw [sleep_perform hstep, List.append_nil] at hsleep
  refine ⟨w, ?_, ?_, hdone⟩
  · rw [bind, continueBind, hphase]
    exact performAll_congr hsleep (conclusion id)
  · rw [hleave, hworker, Worker.leave_goOn_self, Worker.leave_of_absent hid]

theorem sleep_bind_of_stopped (repository : Repository)
    (hid : t.worker.callers.get? id = none)
    (hstopped : t.worker.stopped = true) :
    (t.bind .ofRepositories id repository).sleep =
      { t.sleep with
        events := t.events ++ [.bound id (.error .workerStopped)] } := by
  have hstep := (Worker.CallerMove.refuse repository hid hstopped).step_eq
  rw [bind, continueBind, worker_perform hstep, hid]
  exact sleep_perform hstep

/-- A bind whose questions lead to an error leaves nothing behind but the
error. -/
theorem sleep_bind_of_error {e : SchemaError}
    (hid : t.worker.callers.get? id = none)
    (hopen : t.worker.stopped = false)
    (hrun : Topology.inquiry.run repository.answer = .error e) :
    (t.bind .ofRepositories id repository).sleep =
      { t.sleep with events := t.events ++ [.bound id (.error e)] } := by
  obtain ⟨w, hsleep, hleave, hphase⟩ :=
    exists_bind repository hid hopen
  rw [hrun] at hphase
  have hinstall : w.step (.caller id .install) = none := by
    simp [Worker.step, hphase, Worker.callerStep]
  have hcount : w.step (.caller id .count) = none := by
    simp [Worker.step, hphase, Worker.callerStep]
  have hsend : w.step (.caller id .send) = none := by
    simp [Worker.step, hphase, Worker.callerStep]
  have hgiveUp := (Worker.CallerMove.giveUp repository e hphase).step_eq
  rw [hsleep, conclusion, performAll_cons, perform_of_none hinstall,
    performAll_cons, perform_of_none hcount, performAll_cons,
    perform_of_none hsend, performAll_cons]
  change (perform _ _).sleep = _
  rw [sleep_perform hgiveUp, hleave]
  rfl

/-- A bind whose questions lead to a topology installs a cache for it and asks
for a refresh. -/
theorem sleep_bind_of_ok {topology : Topology}
    (hid : t.worker.callers.get? id = none)
    (hopen : t.worker.stopped = false)
    (hrun : Topology.inquiry.run repository.answer = .ok topology) :
    (t.bind .ofRepositories id repository).sleep =
      { t.sleep with
        worker := { t.worker.install repository topology with
          requested := t.worker.requested + 1 }.signalled
        events := t.events ++ [.bound id (.ok ())] } := by
  obtain ⟨w, hsleep, hleave, hphase⟩ :=
    exists_bind repository hid hopen
  rw [hrun] at hphase
  have hall := sleep_performAll (t := { t with worker := w })
    (Worker.run_install hphase)
  have hgiveUp : (performAll { t with worker := w } [.caller id .install,
      .caller id .count, .caller id .send]).worker.step (.caller id .giveUp) =
        none := by
    rw [worker_of_sleep hall, Worker.step, Worker.get?_leave_self]
    rfl
  have hconclusion : performAll { t with worker := w } (conclusion id) =
      (performAll { t with worker := w } [.caller id .install,
        .caller id .count, .caller id .send]).perform
          (.caller id .giveUp) := rfl
  rw [hsleep, hconclusion, perform_of_none hgiveUp, hall, ← hleave]
  rfl

end Callers

end Turns

end SchemaScope
