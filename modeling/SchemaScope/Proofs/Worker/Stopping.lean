import SchemaScope.Proofs.Worker.Installation

/-!
Stopping. Once a worker has been stopped it lets no bind in, and its loop takes
no signal. A bind that was let in before is not called back: it still installs
its cache and returns. Main statements: after a stop nothing but such a bind
changes what is published, and such a bind does change it.
-/

namespace SchemaScope

/-- A bind that has been let in and has not returned. -/
def Caller.isBind {ρ : Type} : Caller ρ → Bool
  | binding _ _ | requesting (some _) | signalling (some _) => true
  | _ => false

namespace Worker

variable {ρ : Type} {w w' : Worker ρ} {events : List Event}

/-- The caller is in the middle of a bind. -/
def Binding (w : Worker ρ) (id : Nat) : Prop :=
  ∃ phase, w.callers.get? id = some phase ∧ phase.isBind = true

/-- What has been said of the end of a worker is not taken back: that a call
for it to stop has come, that it is stopped, and that its loop is to end. -/
structure EndKept (w w' : Worker ρ) : Prop where
  dismissed (hw : w.dismissed = true) : w'.dismissed = true
  stopped (hw : w.stopped = true) : w'.stopped = true
  shutdown (hw : w.shutdown = true) : w'.shutdown = true

theorem endKept_of_step {label : Label ρ}
    (h : w.step label = some (w', events)) : w.EndKept w' := by
  cases label with
  | caller who move =>
      cases callerMove_of_step h with
      | stop => exact ⟨fun _ => rfl, id, id⟩
      | mark => exact ⟨id, fun _ => rfl, id⟩
      | dismiss => exact ⟨id, id, fun _ => rfl⟩
      | _ => exact ⟨id, id, id⟩
  | loop move =>
      obtain ⟨_, _, _, _, _, rfl, _⟩ := (loopMove_of_step h).exists_eq
      exact ⟨id, id, id⟩
  | drop =>
      rw [(eq_of_drop h).1]
      exact ⟨fun _ => rfl, id, fun _ => rfl⟩

/-- Whoever is about to tell the loop to end has marked the worker before. -/
theorem dismissing_cases {label : Label ρ} {id : Nat}
    (h : w.step label = some (w', events))
    (hid : w'.callers.get? id = some .dismissing) :
    w.callers.get? id = some .dismissing ∨ w'.stopped = true := by
  by_cases hlabel : ∃ move, label = .caller id move
  · obtain ⟨move, rfl⟩ := hlabel
    cases callerMove_of_step h with
    | mark => exact .inr rfl
    | _ => simp_all [get?_goOn, get?_leave]
  · rw [get?_eq_of_step h (not_exists.1 hlabel)] at hid
    exact .inl hid

theorem Reachable.stopped_of_dismissing (h : w.Reachable) {id : Nat}
    (hid : w.callers.get? id = some .dismissing) : w.stopped = true := by
  refine h.induction
    (I := fun w => ∀ id, w.callers.get? id = some .dismissing →
      w.stopped = true) nofun ?_ id hid
  intro w w' label events hstep hw id hid
  rcases dismissing_cases hstep hid with hbefore | hmarked
  · exact (endKept_of_step hstep).stopped (hw id hbefore)
  · exact hmarked

/-- Only one call for the worker to stop counts, and as long as it is about to
mark the worker, the worker is not stopped. -/
structure StopsOnce (w : Worker ρ) : Prop where
  dismissed (hstopped : w.stopped = true) : w.dismissed = true
  unmarked (id : Nat) (hid : w.callers.get? id = some .stopping) :
    w.dismissed = true ∧ w.stopped = false
  unique (i j : Nat) (hi : w.callers.get? i = some .stopping)
    (hj : w.callers.get? j = some .stopping) : i = j

/-- Whoever is about to mark the worker was so before, or comes in. -/
theorem stopping_cases {label : Label ρ} {id : Nat}
    (h : w.step label = some (w', events))
    (hid : w'.callers.get? id = some .stopping) :
    w.callers.get? id = some .stopping ∧ label ≠ .caller id .mark ∨
      label = .caller id .stop ∧ w.dismissed = false := by
  by_cases hlabel : ∃ move, label = .caller id move
  · obtain ⟨move, rfl⟩ := hlabel
    cases callerMove_of_step h with
    | stop _ hdismissed => exact .inr ⟨rfl, hdismissed⟩
    | _ => simp_all [get?_goOn, get?_leave]
  · rw [get?_eq_of_step h (not_exists.1 hlabel)] at hid
    exact .inl ⟨hid, fun heq => hlabel ⟨_, heq⟩⟩

theorem stopped_cases {label : Label ρ}
    (h : w.step label = some (w', events)) (hstopped : w'.stopped = true) :
    w.stopped = true ∨ ∃ id, label = .caller id .mark ∧
      w.callers.get? id = some .stopping := by
  cases label with
  | caller id move =>
      cases callerMove_of_step h with
      | mark hid => exact .inr ⟨id, rfl, hid⟩
      | _ => exact .inl hstopped
  | loop move =>
      obtain ⟨_, _, _, _, _, rfl, _⟩ := (loopMove_of_step h).exists_eq
      exact .inl hstopped
  | drop =>
      rw [(eq_of_drop h).1] at hstopped
      exact .inl hstopped

theorem StopsOnce.step {label : Label ρ} (hw : w.StopsOnce)
    (h : w.step label = some (w', events)) : w'.StopsOnce where
  dismissed := by
    intro hstopped
    rcases stopped_cases h hstopped with hbefore | ⟨id, _, hid⟩
    · exact (endKept_of_step h).dismissed (hw.dismissed hbefore)
    · exact (endKept_of_step h).dismissed (hw.unmarked id hid).1
  unmarked := by
    intro id hid
    rcases stopping_cases h hid with ⟨hbefore, hmark⟩ | ⟨rfl, hopen⟩
    · obtain ⟨hdismissed, hunmarked⟩ := hw.unmarked id hbefore
      refine ⟨(endKept_of_step h).dismissed hdismissed, ?_⟩
      -- The only one who could mark the worker has not done so.
      rw [Bool.eq_false_iff]
      intro hstopped
      rcases stopped_cases h hstopped with hmarked | ⟨other, rfl, hother⟩
      · exact Bool.false_ne_true (hunmarked.symm.trans hmarked)
      · exact hmark (hw.unique other id hother hbefore ▸ rfl)
    · cases callerMove_of_step h with
      | stopAgain _ hdismissed => exact nomatch hopen.symm.trans hdismissed
      | stop =>
          refine ⟨rfl, Bool.eq_false_iff.2 fun hstopped => ?_⟩
          exact Bool.false_ne_true (hopen.symm.trans (hw.dismissed hstopped))
  unique := by
    intro i j hi hj
    rcases stopping_cases h hi with ⟨hbefore, _⟩ | ⟨rfl, hopen⟩
    · rcases stopping_cases h hj with ⟨hother, _⟩ | ⟨_, hopen⟩
      · exact hw.unique i j hbefore hother
      · exact nomatch hopen.symm.trans (hw.unmarked i hbefore).1
    · rcases stopping_cases h hj with ⟨hother, _⟩ | ⟨heq, _⟩
      · exact nomatch hopen.symm.trans (hw.unmarked j hother).1
      · cases heq
        rfl

theorem Reachable.stopsOnce (h : w.Reachable) : w.StopsOnce :=
  h.induction ⟨nofun, nofun, nofun⟩ fun hstep hw => hw.step hstep

/-- A call for the worker to stop that comes while another one is about to mark
the worker returns at once, and the worker is not stopped then. -/
theorem Reachable.stopped_of_stopping (h : w.Reachable) {id other : Nat}
    (hother : w.callers.get? other = some .stopping)
    (hstep : w.step (.caller id .stop) = some (w', events)) :
    events = [.warning .stoppedTwice, .stopped id] ∧ w' = w ∧
      w'.stopped = false := by
  obtain ⟨hdismissed, hunmarked⟩ := h.stopsOnce.unmarked other hother
  cases callerMove_of_step hstep with
  | stopAgain => exact ⟨rfl, rfl, hunmarked⟩
  | stop _ hopen => exact nomatch hopen.symm.trans hdismissed

theorem dismissing_of_dismiss {id : Nat}
    (h : w.step (.caller id .dismiss) = some (w', events)) :
    w.callers.get? id = some .dismissing ∧ w'.shutdown = true := by
  cases callerMove_of_step h with
  | dismiss hid => exact ⟨hid, rfl⟩

theorem refused_of_bind {id : Nat} {repository : ρ}
    (h : w.step (.caller id (.bind repository)) = some (w', events))
    (hstopped : w.stopped = true) :
    events = [.bound id (.error .workerStopped)] ∧ w' = w := by
  cases callerMove_of_step h with
  | refuse => exact ⟨rfl, rfl⟩
  | bind _ _ hopen =>
      rw [hstopped] at hopen
      cases hopen

/-- A stopped worker lets no bind in. -/
theorem binding_of_step {label : Label ρ} {id : Nat}
    (h : w.step label = some (w', events)) (hstopped : w.stopped = true)
    (hid : w'.Binding id) : w.Binding id := by
  obtain ⟨phase, hphase, hbind⟩ := hid
  by_cases hlabel : ∃ move, label = .caller id move
  · obtain ⟨move, rfl⟩ := hlabel
    cases callerMove_of_step h with
    | refuse | unready | stopAgain => exact ⟨phase, hphase, hbind⟩
    | bind _ _ hopen =>
        rw [hstopped] at hopen
        cases hopen
    | answered _ _ _ _ _ hbefore | install _ _ hbefore =>
        exact ⟨_, hbefore, rfl⟩
    | count installed hbefore =>
        rw [get?_goOn, if_pos rfl] at hphase
        cases hphase
        cases installed with
        | none => cases hbind
        | some generation => exact ⟨_, hbefore, rfl⟩
    | brokenOff | giveUp | send | readRequested | dismiss =>
        rw [get?_leave, if_pos rfl] at hphase
        cases hphase
    | _ =>
        rw [get?_goOn, if_pos rfl] at hphase
        cases hphase
        cases hbind
  · rw [get?_eq_of_step h (not_exists.1 hlabel)] at hphase
    exact ⟨phase, hphase, hbind⟩

end Worker

namespace History

variable {ρ : Type} {H : History ρ}

/-- A call for the worker to stop has told the loop to end and returned before
step `n`. A call that comes while another one is at it does nothing, and does
not count (`not_stopReturned_of_overlap`). -/
def StopReturned (H : History ρ) (n : Nat) : Prop :=
  ∃ i < n, ∃ caller, H.steps[i]? = some (.caller caller .dismiss)

theorem StopReturned.flags {m n : Nat} (h : H.StopReturned m) (hmn : m ≤ n) :
    (H.worker n).stopped = true ∧ (H.worker n).shutdown = true := by
  obtain ⟨i, him, caller, hlabel⟩ := h
  obtain ⟨hdismissing, hshutdown⟩ :=
    Worker.dismissing_of_dismiss (H.step_worker hlabel)
  have hstopped :=
    (H.reachable_worker i).stopped_of_dismissing hdismissing
  exact ⟨H.kept_of_le (fun hstep => (Worker.endKept_of_step hstep).stopped)
      (Nat.le_of_succ_le (Nat.le_trans him hmn)) hstopped,
    H.kept_of_le (fun hstep => (Worker.endKept_of_step hstep).shutdown)
      (Nat.le_trans him hmn) hshutdown⟩

/-- That a call for the worker to stop returns does not say so much. One that
overlaps another returns before the worker is stopped. -/
theorem not_stopReturned_of_overlap {n id other : Nat}
    (hother : (H.worker n).callers.get? other = some .stopping)
    (hlabel : H.steps[n]? = some (.caller id .stop)) :
    Event.stopped id ∈ H.events n ∧ (H.worker (n + 1)).stopped = false ∧
      ¬ H.StopReturned (n + 1) := by
  obtain ⟨hevents, _, hunmarked⟩ :=
    (H.reachable_worker n).stopped_of_stopping hother (H.step_worker hlabel)
  refine ⟨by simp [hevents], hunmarked, fun hstop => ?_⟩
  exact nomatch hunmarked.symm.trans (hstop.flags (Nat.le_refl _)).1

example :
    let H : History Unit := ⟨[.caller 0 .stop, .caller 1 .stop], rfl⟩
    (H.events 1, (H.worker 2).stopped) =
      ([.warning .stoppedTwice, .stopped 1], false) := rfl

/-- A bind in the middle of which a caller is after a stop was let in
before. -/
theorem StopReturned.binding {m n id : Nat} (h : H.StopReturned m)
    (hmn : m ≤ n) (hid : (H.worker n).Binding id) :
    (H.worker m).Binding id := by
  refine H.kept_between
    (P := fun w => w.Binding id → (H.worker m).Binding id) hmn ?_
    (fun hfirst => hfirst) hid
  intro k label hmk _ hlabel ih hlater
  exact ih (Worker.binding_of_step (H.step_worker hlabel)
    (h.flags hmk).1 hlater)

/-- A cache is installed by a caller in the middle of a bind. -/
theorem binding_of_install {n id : Nat}
    (hlabel : H.steps[n]? = some (.caller id .install)) :
    (H.worker n).Binding id := by
  rcases Worker.published_cases (H.step_worker hlabel) with
    ⟨other, repository, topology, heq, hid, _⟩ | ⟨_, _, _, hother⟩
  · cases heq
    exact ⟨_, hid, rfl⟩
  · exact absurd rfl (hother id)

theorem binding_of_bound {n id : Nat}
    (hbound : Event.bound id (.ok ()) ∈ H.events n) :
    (H.worker n).Binding id := by
  obtain ⟨label, hlabel⟩ := H.exists_step_of_mem_events hbound
  obtain ⟨generation, hid⟩ :=
    Worker.signalling_of_bound_mem (H.step_worker hlabel) hbound
  exact ⟨_, hid, rfl⟩

/-- What is published after a stop, if nobody was in the middle of a bind. -/
theorem StopReturned.published_eq {m n : Nat} (h : H.StopReturned m)
    (hmn : m ≤ n) (hnone : ∀ id, ¬ (H.worker m).Binding id) :
    (H.worker n).bound = (H.worker m).bound ∧
      (H.worker n).generation = (H.worker m).generation ∧
      (H.worker n).caches.map SchemaCache.fixed =
        (H.worker m).caches.map SchemaCache.fixed := by
  refine H.kept_between
    (P := fun w => w.bound = (H.worker m).bound ∧
      w.generation = (H.worker m).generation ∧
      w.caches.map SchemaCache.fixed =
        (H.worker m).caches.map SchemaCache.fixed) hmn ?_ ⟨rfl, rfl, rfl⟩
  intro k label hmk _ hlabel ih
  rcases Worker.published_cases (H.step_worker hlabel) with
    ⟨id, _, _, rfl, _⟩ | ⟨hbound, hgeneration, hfixed, _⟩
  · exact absurd (h.binding hmk (binding_of_install hlabel)) (hnone id)
  · exact ⟨hbound.trans ih.1, hgeneration.trans ih.2.1, hfixed.trans ih.2.2⟩

/-- After a stop no bind is let in. Nobody installs a cache or returns from a
bind but those that were in the middle of one, and if there were none, what is
published stays what it was. -/
theorem stopReturned_final {m n : Nat} (hstop : H.StopReturned m)
    (hmn : m ≤ n) :
    (∀ id repository, H.steps[n]? = some (.caller id (.bind repository)) →
        H.events n = [.bound id (.error .workerStopped)] ∧
          H.worker (n + 1) = H.worker n) ∧
      (∀ id, H.steps[n]? = some (.caller id .install) ∨
          Event.bound id (.ok ()) ∈ H.events n → (H.worker m).Binding id) ∧
      ((∀ id, ¬ (H.worker m).Binding id) →
        (H.worker n).bound = (H.worker m).bound ∧
          (H.worker n).generation = (H.worker m).generation ∧
          (H.worker n).caches.map SchemaCache.fixed =
            (H.worker m).caches.map SchemaCache.fixed) := by
  refine ⟨?_, ?_, hstop.published_eq hmn⟩
  · intro id repository hlabel
    exact Worker.refused_of_bind (H.step_worker hlabel) (hstop.flags hmn).1
  · rintro id (hinstall | hbound)
    · exact hstop.binding hmn (binding_of_install hinstall)
    · exact hstop.binding hmn (binding_of_bound hbound)

namespace StopWitness

/-- A bind up to its last question. -/
def beginBind (id : Nat) : List (Label String) :=
  [.bind "app", .answered .currentDatabase (.ok "app"),
    .answered .databases (.ok ["app"]), .answered .currentSchema (.ok "main"),
    .answered .schemas (.ok ["main"])].map (.caller id)

/-- A bind from its last answer on. -/
def finishBind (id : Nat) : List (Label String) :=
  [.answered .schemaTables (.ok [("main", ["users"])]), .install, .count,
    .send].map (.caller id)

def stop (id : Nat) : List (Label String) :=
  [.stop, .mark, .dismiss].map (.caller id)

/-- A bind has returned when the worker is stopped, and another one comes. -/
def refused : History String :=
  ⟨beginBind 0 ++ finishBind 0 ++ stop 1 ++
    [.caller 2 .request, .caller 3 (.bind "late")], rfl⟩

/-- The worker is stopped while a bind waits for its last answer. -/
def overtaken : History String := ⟨beginBind 0 ++ stop 1 ++ finishBind 0, rfl⟩

theorem stopReturned_final_refused :
    refused.StopReturned 12 ∧
      refused.events 13 = [.bound 3 (.error .workerStopped)] ∧
      (refused.worker 13).bound = some "app" ∧
      (refused.worker 13).generation = 1 := by
  have hstop : refused.StopReturned 12 := ⟨11, by decide, 1, rfl⟩
  have hnone : ∀ id, ¬ (refused.worker 12).Binding id := by
    rintro id ⟨phase, hid, _⟩
    cases hid
  obtain ⟨hrefused, _, hkept⟩ := stopReturned_final hstop (n := 13) (by decide)
  obtain ⟨hbound, hgeneration, _⟩ := hkept hnone
  exact ⟨hstop, (hrefused 3 "late" rfl).1, hbound, hgeneration⟩

/-- A stop does not keep a bind that was let in before from installing its
cache and returning. -/
theorem stopReturned_overtaken :
    overtaken.StopReturned 8 ∧
      (overtaken.worker 8).bound = none ∧
      (overtaken.worker 8).cache? = none ∧
      (overtaken.worker 8).generation = 0 ∧
      Event.bound 0 (.ok ()) ∈ overtaken.events 11 ∧
      (overtaken.worker 12).bound = some "app" ∧
      (overtaken.worker 12).cache?.isSome = true ∧
      (overtaken.worker 12).generation = 1 :=
  ⟨⟨7, by decide, 1, rfl⟩, rfl, rfl, rfl, .head _, rfl, rfl, rfl⟩

end StopWitness

end History

end SchemaScope
