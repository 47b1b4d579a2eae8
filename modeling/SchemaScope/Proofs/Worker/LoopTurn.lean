import SchemaScope.Proofs.Worker.Signals
import SchemaScope.Proofs.Worker.Turns

/-!
The turn of the loop when repositories answer at once. Main statement: after its
turn the loop has nothing left to do, and the turn is the same whether or not
the loop had been told before that it can go on.
-/

namespace SchemaScope

namespace Worker

variable {ρ : Type} {w w' : Worker ρ} {events : List Event}

/-- Nothing has been left for the loop. -/
def Quiet (w : Worker ρ) : Prop := w.signal = false ∧ w.shutdown = false

/-- The loop has nothing to do. -/
def Idle (w : Worker ρ) : Prop :=
  w.loop.isOver = true ∨ w.loop = .waiting ∧ w.Quiet

theorem LoopMove.quiet {move : LoopStep} (h : LoopMove w move w' events)
    (hw : w.Quiet) : w'.Quiet := by
  have hshutdown : w'.shutdown = w.shutdown := by
    obtain ⟨_, _, _, _, _, rfl, _⟩ := h.exists_eq
    rfl
  refine ⟨?_, hshutdown.trans hw.2⟩
  by_cases htake : move = .take
  · subst htake
    cases h with
    | take => rfl
  · exact (h.signal_eq htake).trans hw.1

theorem Idle.inFlight (h : w.Idle) : w.loop.inFlight = false := by
  rcases h with hover | ⟨hwaiting, _⟩
  · cases hloop : w.loop with
    | exited | crashed => rfl
    | _ => simp [hloop, LoopPhase.isOver] at hover
  · rw [hwaiting]
    rfl

/-- A loop that is not refreshing takes a signal or ends, or does nothing. -/
theorem step_eq_none_of_not_inFlight (h : w.loop.inFlight = false)
    {move : LoopStep} (htake : move ≠ .take) (hexit : move ≠ .exit) :
    w.step (.loop move) = none := by
  cases hstep : w.step (.loop move) with
  | none => rfl
  | some next =>
      obtain ⟨w', events⟩ := next
      cases loopMove_of_step hstep with
      | take => exact absurd rfl htake
      | exit => exact absurd rfl hexit
      | _ => simp_all [LoopPhase.inFlight]

/-- An idle loop takes no step. -/
theorem Idle.step_eq_none (h : w.Idle) (move : LoopStep) :
    w.step (.loop move) = none := by
  cases hstep : w.step (.loop move) with
  | none => rfl
  | some next =>
      obtain ⟨w', events⟩ := next
      have hover := (loopMove_of_step hstep).isOver_eq_false
      rcases h with hidle | ⟨hwaiting, hsignal, hshutdown⟩
      · rw [hidle] at hover
        cases hover
      · cases loopMove_of_step hstep <;> simp_all

end Worker

namespace Turns

variable {σ ρ : Type} {t : Turns σ ρ}

theorem wakeLoop_of_quiet (h : t.worker.Quiet) : t.wakeLoop = t := by
  unfold wakeLoop
  split
  · simp [h.1, h.2]
  · rfl

/-- A step after which nothing is left for the loop wakes nobody. -/
theorem perform_of_quiet {label : Label ρ} {w : Worker ρ} {events : List Event}
    (h : t.worker.step label = some (w, events)) (hquiet : w.Quiet) :
    t.perform label =
      { t with worker := w, events := t.events ++ events } := by
  rw [perform_of_step h]
  exact wakeLoop_of_quiet hquiet

/-- The loop is between two refreshes, or over, and is ready if there is
anything for it to do. -/
structure Prepared (t : Turns σ ρ) : Prop where
  loop : t.worker.loop.inFlight = false
  ready : t.ready = [.loop] ∨ t.ready = [] ∧ t.worker.Idle

theorem Prepared.perform (h : t.Prepared) (id : Nat) (move : CallerStep ρ) :
    (t.perform (.caller id move)).Prepared := by
  cases hstep : t.worker.step (.caller id move) with
  | none =>
      rw [perform_of_none hstep]
      exact h
  | some next =>
      obtain ⟨w, events⟩ := next
      have hworker := worker_perform hstep
      have hloop : w.loop = t.worker.loop :=
        (Worker.callerMove_of_step hstep).loop_eq
      refine ⟨by rw [hworker, hloop]; exact h.loop, ?_⟩
      rw [hworker, perform_of_step hstep, wakeLoop]
      split
      · rename_i hwaiting
        simp only at hwaiting
        rcases h.ready with hready | ⟨hready, _⟩
        · simp [hready]
        · by_cases hquiet : w.Quiet
          · simp [hready, hquiet.1, hquiet.2, Worker.Idle, hwaiting, hquiet]
          · have hleft : (w.signal || w.shutdown) = true := by
              simpa [Worker.Quiet, or_iff_not_imp_left] using hquiet
            simp [hready, hleft]
      · rename_i hwaiting
        simp only at hwaiting
        rcases h.ready with hready | ⟨hready, hidle⟩
        · exact .inl hready
        · refine .inr ⟨hready, .inl ?_⟩
          rcases hidle with hover | ⟨heq, _⟩
          · rw [hloop]
            exact hover
          · exact absurd (hloop.trans heq) hwaiting

theorem Prepared.performAll (h : t.Prepared) (id : Nat)
    (moves : List (CallerStep ρ)) :
    (t.performAll (moves.map (.caller id))).Prepared := by
  induction moves generalizing t with
  | nil => exact h
  | cons move rest ih => exact ih (h.perform id move)

/-- A bind leaves the loop between two refreshes, and wakes it if need be. -/
theorem Prepared.bind {t : Turns Unit Repository} (h : t.Prepared) (id : Nat)
    (repository : Repository) :
    (t.bind .ofRepositories id repository).Prepared := by
  have hconsult : ∀ {α : Type} (inquiry : Inquiry α) (repository : Repository)
      {t : Turns Unit Repository}, t.Prepared →
      (t.consult .ofRepositories (.caller id) repository inquiry).Prepared := by
    intro α inquiry repository
    induction inquiry with
    | done result => exact fun ht => ht
    | ask call next ih => exact fun ht => ih _ (ht.perform id _)
  have hbegun := h.perform id (.bind repository)
  simp only [Turns.bind]
  unfold continueBind
  split
  · exact (hconsult _ _ hbegun).performAll id [.install, .count, .send, .giveUp]
  · exact hbegun

theorem performAll_of_none {labels : List (Label ρ)}
    (h : ∀ label ∈ labels, t.worker.step label = none) :
    t.performAll labels = t := by
  induction labels with
  | nil => rfl
  | cons label rest ih =>
      rw [performAll_cons, perform_of_none (h label (by simp))]
      exact ih fun label hlabel => h label (by simp [hlabel])

/-! The turn of the loop is nothing but steps of the loop: what they keep, it
keeps. -/

section Keeping

variable (host : Host σ ρ) {P : Turns σ ρ → Prop}
  (hstep : ∀ {t : Turns σ ρ} move, P t → P (t.perform (.loop move)))

include hstep

theorem keeps_performAll (h : P t) (moves : List LoopStep) :
    P (t.performAll (moves.map .loop)) := by
  induction moves generalizing t with
  | nil => exact h
  | cons move rest ih => exact ih (hstep move h)

theorem keeps_nextRefresh (h : P t) : P t.nextRefresh :=
  keeps_performAll hstep h [.exit, .take, .readRequests, .begin]

variable (hworld : ∀ {t : Turns σ ρ} world, P t → P { t with world })

include hworld

theorem keeps_consult {α : Type} (h : P t) (repository : ρ)
    (inquiry : Inquiry α) : P (t.consult host .loop repository inquiry) := by
  induction inquiry generalizing t with
  | done result => exact h
  | ask call next ih =>
      simp only [consult]
      generalize host.receive t.world .loop repository call = received
      obtain ⟨world, receipt⟩ := received
      have hasked := hworld world h
      cases receipt with
      | held => exact hasked
      | brokenOff => exact hstep .brokenOff hasked
      | answered outcome =>
          exact ih outcome (hstep (.answered call outcome) hasked)

theorem keeps_consultLoop (h : P t) : P (t.consultLoop host) := by
  unfold consultLoop
  split
  · exact keeps_consult host hstep hworld h _ _
  · exact keeps_consult host hstep hworld h _ _
  · exact h

theorem keeps_finishRefresh (h : P t) : P (t.finishRefresh host) := by
  have hcolumns :=
    hstep .writeColumns (keeps_consultLoop host hstep hworld h)
  have hforeignKeys :=
    hstep .writeForeignKeys (keeps_consultLoop host hstep hworld hcolumns)
  exact keeps_performAll hstep hforeignKeys [.countRun, .complete]

theorem keeps_loopTurn (h : P t) : P (t.loopTurn host) := by
  have hfirst :=
    keeps_nextRefresh hstep (keeps_finishRefresh host hstep hworld h)
  exact keeps_nextRefresh hstep (keeps_finishRefresh host hstep hworld hfirst)

end Keeping

theorem keeps_perform_of_loopMove {P : Worker ρ → Prop}
    (hP : ∀ {w move w' events}, Worker.LoopMove w move w' events → P w → P w')
    {t : Turns σ ρ} (move : LoopStep) (h : P t.worker) :
    P (t.perform (.loop move)).worker := by
  cases hstep : t.worker.step (.loop move) with
  | none =>
      rw [perform_of_none hstep]
      exact h
  | some next =>
      rw [worker_perform hstep]
      exact hP (Worker.loopMove_of_step hstep) h

/-- What no step of the loop changes is the same after its turn. -/
theorem worker_loopTurn {P : Worker ρ → Prop}
    (hP : ∀ {w move w' events}, Worker.LoopMove w move w' events → P w → P w')
    (host : Host σ ρ) (h : P t.worker) : P (t.loopTurn host).worker :=
  keeps_loopTurn host (P := fun t => P t.worker)
    (keeps_perform_of_loopMove hP) (fun _ ht => ht) h

section Loop

variable (host : Host σ ρ)

theorem finishRefresh_of_not_inFlight (h : t.worker.loop.inFlight = false) :
    t.finishRefresh host = t := by
  have hconsult : t.consultLoop host = t := by
    unfold consultLoop
    split
    · simp_all [LoopPhase.inFlight]
    · simp_all [LoopPhase.inFlight]
    · rfl
  have hnone : ∀ move, move ≠ .take → move ≠ .exit →
      t.worker.step (.loop move) = none :=
    fun move => Worker.step_eq_none_of_not_inFlight h
  rw [finishRefresh, hconsult,
    perform_of_none (hnone .writeColumns nofun nofun), hconsult,
    perform_of_none (hnone .writeForeignKeys nofun nofun)]
  refine performAll_of_none fun label hlabel => ?_
  simp only [List.mem_cons, List.not_mem_nil, or_false] at hlabel
  rcases hlabel with rfl | rfl
  · exact hnone .countRun nofun nofun
  · exact hnone .complete nofun nofun

theorem nextRefresh_of_idle (h : t.worker.Idle) : t.nextRefresh = t := by
  refine performAll_of_none fun label hlabel => ?_
  simp only [List.mem_cons, List.not_mem_nil, or_false] at hlabel
  rcases hlabel with rfl | rfl | rfl | rfl
  all_goals exact h.step_eq_none _

theorem loopTurn_of_idle (h : t.worker.Idle) : t.loopTurn host = t := by
  rw [loopTurn, finishRefresh_of_not_inFlight host h.inFlight,
    nextRefresh_of_idle h, finishRefresh_of_not_inFlight host h.inFlight,
    nextRefresh_of_idle h]

/-- Nobody is ready, and nothing has been left for the loop. -/
structure Asleep (t : Turns σ ρ) : Prop where
  ready : t.ready = []
  quiet : t.worker.Quiet

/-- The loop does not wake itself. -/
theorem Asleep.perform (h : t.Asleep) (move : LoopStep) :
    (t.perform (.loop move)).Asleep := by
  cases hstep : t.worker.step (.loop move) with
  | none =>
      rw [perform_of_none hstep]
      exact h
  | some next =>
      have hquiet := (Worker.loopMove_of_step hstep).quiet h.quiet
      rw [perform_of_quiet hstep hquiet]
      exact ⟨h.ready, hquiet⟩

theorem Asleep.finishRefresh (h : t.Asleep) :
    (t.finishRefresh host).Asleep :=
  keeps_finishRefresh host (fun move ht => ht.perform move)
    (fun _ ht => ⟨ht.ready, ht.quiet⟩) h

end Loop

theorem nextRefresh_of_shutdown (hloop : t.worker.loop = .waiting)
    (hshutdown : t.worker.shutdown = true) :
    t.nextRefresh.ready = t.ready ∧ t.nextRefresh.worker.Idle := by
  have hexit := perform_of_step (Worker.LoopMove.exit hloop hshutdown).step_eq
  have hidle : (t.perform (.loop .exit)).worker.Idle := by
    rw [hexit]
    exact .inl rfl
  have hrest : t.nextRefresh = t.perform (.loop .exit) := by
    rw [nextRefresh, performAll_cons]
    refine performAll_of_none fun label hlabel => ?_
    simp only [List.mem_cons, List.not_mem_nil, or_false] at hlabel
    rcases hlabel with rfl | rfl | rfl
    all_goals exact hidle.step_eq_none _
  rw [hrest]
  exact ⟨by rw [hexit]; rfl, hidle⟩

/-- A loop that is waiting takes a signal and begins to refresh. -/
theorem nextRefresh_of_signal (hready : t.ready = [])
    (hloop : t.worker.loop = .waiting) (hsignal : t.worker.signal = true)
    (hshutdown : t.worker.shutdown = false) :
    t.nextRefresh.Asleep ∧
      t.nextRefresh.worker.loop =
        t.worker.beginRefresh t.worker.requested := by
  have hexit : t.worker.step (.loop .exit) = none := by
    simp [Worker.step, hloop, Worker.loopStep, hshutdown]
  have htake := (Worker.LoopMove.take hloop hsignal hshutdown).step_eq
  have hrun : t.worker.run [.loop .take, .loop .readRequests, .loop .begin] =
      some ({ t.worker with
        signal := false, loop := t.worker.beginRefresh t.worker.requested },
        []) :=
    Worker.run_cons_eq_some_iff.2 ⟨_, _, _, htake, rfl, rfl⟩
  have hnext : t.nextRefresh =
      t.performAll [.loop .take, .loop .readRequests, .loop .begin] := by
    rw [nextRefresh, performAll_cons, perform_of_none hexit]
  have htaken : (t.perform (.loop .take)).Asleep := by
    rw [perform_of_quiet htake ⟨rfl, hshutdown⟩]
    exact ⟨hready, rfl, hshutdown⟩
  rw [hnext, worker_performAll hrun]
  exact ⟨keeps_performAll (fun move ht => ht.perform move) htaken
    [.readRequests, .begin], rfl⟩

/-- The loop comes to an end, finds nothing to do, or begins to refresh. -/
theorem nextRefresh_cases (hready : t.ready = [])
    (hloop : t.worker.loop.inFlight = false) :
    t.nextRefresh.ready = [] ∧ t.nextRefresh.worker.Idle ∨
      t.nextRefresh.Asleep ∧
        t.nextRefresh.worker.loop =
          t.worker.beginRefresh t.worker.requested := by
  by_cases hidle : t.worker.Idle
  · rw [nextRefresh_of_idle hidle]
    exact .inl ⟨hready, hidle⟩
  · have hwaiting : t.worker.loop = .waiting := by
      cases hphase : t.worker.loop with
      | waiting => rfl
      | exited | crashed =>
          simp [Worker.Idle, hphase, LoopPhase.isOver] at hidle
      | _ => simp [hphase, LoopPhase.inFlight] at hloop
    cases hshutdown : t.worker.shutdown with
    | true =>
        obtain ⟨heq, hdone⟩ := nextRefresh_of_shutdown hwaiting hshutdown
        exact .inl ⟨heq.trans hready, hdone⟩
    | false =>
        have hsignal : t.worker.signal = true := by
          by_contra hnot
          exact hidle (.inr ⟨hwaiting, by simpa using hnot, hshutdown⟩)
        exact .inr (nextRefresh_of_signal hready hwaiting hsignal hshutdown)

/-! The loop gets its answers at once. -/

section Answers

variable {t : Turns Unit Repository} {requests : Nat}
  {work : Assignment Repository}

theorem consult_columns {inquiry : Inquiry ColumnIndex}
    (h : t.worker.loop = .columns requests work inquiry) :
    (t.consult .ofRepositories .loop work.repository inquiry).worker.loop =
      .columns requests work (.done (inquiry.run work.repository.answer)) := by
  induction inquiry generalizing t with
  | done result => exact h
  | ask call next ih =>
      have hnext : (Inquiry.ask call next).resume? call
          (work.repository.answer call) =
            some (next (work.repository.answer call)) := by
        simp [Inquiry.resume?]
      have hstep := (Worker.LoopMove.columnsAnswered _ _ _ _ _ _ h
        hnext).step_eq
      refine ih (work.repository.answer call)
        (t := t.perform (.loop (.answered call _))) ?_
      rw [worker_perform hstep]

theorem consult_foreignKeys {inquiry : Inquiry (Option ForeignKeyIndex)}
    (h : t.worker.loop = .foreignKeys requests work inquiry) :
    (t.consult .ofRepositories .loop work.repository inquiry).worker.loop =
      .foreignKeys requests work
        (.done (inquiry.run work.repository.answer)) := by
  induction inquiry generalizing t with
  | done result => exact h
  | ask call next ih =>
      have hnext : (Inquiry.ask call next).resume? call
          (work.repository.answer call) =
            some (next (work.repository.answer call)) := by
        simp [Inquiry.resume?]
      have hstep := (Worker.LoopMove.foreignKeysAnswered _ _ _ _ _ _ h
        hnext).step_eq
      refine ih (work.repository.answer call)
        (t := t.perform (.loop (.answered call _))) ?_
      rw [worker_perform hstep]

/-- A refresh that has been counted or cannot be counted is over in two
steps. -/
theorem inFlight_of_refreshed
    (h : t.worker.loop = .refreshed requests ∨ t.worker.loop = .crashed) :
    (t.performAll [.loop .countRun, .loop .complete]).worker.loop.inFlight =
      false := by
  rcases h with hrefreshed | hcrashed
  · have hcount := (Worker.LoopMove.countRun requests hrefreshed).step_eq
    have hrun : t.worker.run [.loop .countRun, .loop .complete] = some
        ({ t.worker with
          runs := t.worker.runs + 1, completed := requests, loop := .waiting },
          []) :=
      Worker.run_cons_eq_some_iff.2 ⟨_, _, _, hcount, rfl, rfl⟩
    rw [worker_performAll hrun]
    rfl
  · have hidle : t.worker.Idle := .inl (by rw [hcrashed]; rfl)
    rw [performAll_of_none]
    · exact hidle.inFlight
    · intro label hlabel
      simp only [List.mem_cons, List.not_mem_nil, or_false] at hlabel
      rcases hlabel with rfl | rfl
      all_goals exact hidle.step_eq_none _

/-- The foreign keys that a loop has been told are written, or break it
off. -/
theorem refreshed_of_writeForeignKeys
    {result : Outcome (Option ForeignKeyIndex)}
    (h : t.worker.loop = .foreignKeys requests work (.done result)) :
    (t.perform (.loop .writeForeignKeys)).worker.loop = .refreshed requests ∨
      (t.perform (.loop .writeForeignKeys)).worker.loop = .crashed := by
  rcases result with e | _ | foreignKeys
  · have hmove := Worker.LoopMove.writeForeignKeys requests work (.error e) h
    exact .inl (by rw [worker_perform hmove.step_eq])
  · have hmove := Worker.LoopMove.unfilable requests work h
    exact .inr (by rw [worker_perform hmove.step_eq])
  · have hmove :=
      Worker.LoopMove.writeForeignKeys requests work (.ok foreignKeys) h
    exact .inl (by rw [worker_perform hmove.step_eq])

theorem inFlight_finishRefresh_of_refreshed
    (h : t.worker.loop = .refreshed requests) :
    (t.finishRefresh .ofRepositories).worker.loop.inFlight = false := by
  have hconsult : t.consultLoop .ofRepositories = t := by
    rw [consultLoop, h]
  have hwrite : t.worker.step (.loop .writeColumns) = none := by
    simp [Worker.step, h, Worker.loopStep]
  have hforeign : t.worker.step (.loop .writeForeignKeys) = none := by
    simp [Worker.step, h, Worker.loopStep]
  rw [finishRefresh, hconsult, perform_of_none hwrite, hconsult,
    perform_of_none hforeign]
  exact inFlight_of_refreshed (.inl h)

/-- A loop that has begun to ask comes to the end of the refresh. -/
theorem inFlight_finishRefresh_of_columns {inquiry : Inquiry ColumnIndex}
    (hcolumns : t.worker.loop = .columns requests work inquiry) :
    (t.finishRefresh .ofRepositories).worker.loop.inFlight = false := by
  have hfirst : t.consultLoop .ofRepositories =
      t.consult .ofRepositories .loop work.repository inquiry := by
    rw [consultLoop, hcolumns]
  have hasked := consult_columns hcolumns
  rw [← hfirst] at hasked
  have hwrite := (Worker.LoopMove.writeColumns _ _ _ hasked).step_eq
  have hwritten := congrArg Worker.loop (worker_perform hwrite)
  simp only at hwritten
  have hsecond : ((t.consultLoop .ofRepositories).perform
      (.loop .writeColumns)).consultLoop .ofRepositories =
        ((t.consultLoop .ofRepositories).perform
          (.loop .writeColumns)).consult .ofRepositories .loop
            work.repository (ForeignKeyIndex.inquiry work.schemas) := by
    rw [consultLoop, hwritten]
  have hlearnt := consult_foreignKeys hwritten
  rw [← hsecond] at hlearnt
  exact inFlight_of_refreshed (refreshed_of_writeForeignKeys hlearnt)

end Answers

theorem Asleep.idle (h : t.Asleep) (hloop : t.worker.loop.inFlight = false) :
    t.worker.Idle := by
  cases hphase : t.worker.loop with
  | waiting => exact .inr ⟨hphase, h.quiet⟩
  | exited | crashed => exact .inl (by rw [hphase]; rfl)
  | _ => simp [hphase, LoopPhase.inFlight] at hloop

/-- After its turn the loop is not ready again, and has nothing left to do. -/
theorem idle_loopTurn {t : Turns Unit Repository} (hready : t.ready = [])
    (hloop : t.worker.loop.inFlight = false) :
    (t.loopTurn .ofRepositories).ready = [] ∧
      (t.loopTurn .ofRepositories).worker.Idle := by
  rw [loopTurn, finishRefresh_of_not_inFlight _ hloop]
  rcases nextRefresh_cases hready hloop with
    ⟨hnobody, hidle⟩ | ⟨hasleep, hbegun⟩
  · rw [finishRefresh_of_not_inFlight _ hidle.inFlight,
      nextRefresh_of_idle hidle]
    exact ⟨hnobody, hidle⟩
  · have hfinished :=
      hasleep.finishRefresh .ofRepositories
    have hdone : (t.nextRefresh.finishRefresh
        .ofRepositories).worker.loop.inFlight = false := by
      rcases t.worker.beginRefresh_cases t.worker.requested with
        ⟨work, heq⟩ | heq
      · exact inFlight_finishRefresh_of_columns (hbegun.trans heq)
      · exact inFlight_finishRefresh_of_refreshed (hbegun.trans heq)
    have hidle := hfinished.idle hdone
    rw [nextRefresh_of_idle hidle]
    exact ⟨hfinished.ready, hidle⟩

theorem round_eq {t : Turns Unit Repository} (h : t.Prepared) :
    t.round .ofRepositories = t.sleep.loopTurn .ofRepositories := by
  rcases h.ready with hready | ⟨hready, hidle⟩
  · rw [round, hready]
    rfl
  · rw [round, hready, loopTurn_of_idle (t := t.sleep) _ hidle]
    rfl

/-- All that there is to be done when turns are taken is the turn of the loop,
and it is the same whether or not the loop was ready already. -/
theorem settle_eq {t : Turns Unit Repository} (h : t.Prepared) :
    t.settle .ofRepositories = t.sleep.loopTurn .ofRepositories ∧
      (t.settle .ofRepositories).ready = [] ∧
      (t.settle .ofRepositories).worker.Idle := by
  obtain ⟨hready, hidle⟩ := idle_loopTurn (t := t.sleep) rfl h.loop
  have hsettle : t.settle .ofRepositories =
      t.sleep.loopTurn .ofRepositories := by
    have hprepared : (t.sleep.loopTurn .ofRepositories).Prepared :=
      ⟨hidle.inFlight, .inr ⟨hready, hidle⟩⟩
    have hsleep : (t.sleep.loopTurn .ofRepositories).sleep =
        t.sleep.loopTurn .ofRepositories := by
      rw [sleep, ← hready]
    rw [settle, round_eq h, round_eq hprepared, hsleep,
      loopTurn_of_idle _ hidle]
  rw [hsettle]
  exact ⟨rfl, hready, hidle⟩

end Turns

end SchemaScope
