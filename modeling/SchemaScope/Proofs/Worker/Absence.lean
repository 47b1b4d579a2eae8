import SchemaScope.Proofs.OrderedMap
import SchemaScope.Proofs.Worker.Generations

/-!
Steps without one of the callers. What the other parties do does not depend on
whether a caller is there, as long as it changes nothing but where it is itself.
-/

namespace SchemaScope

/-- A step of the caller. -/
def Label.isOf {ρ : Type} (id : Nat) : Label ρ → Bool
  | .caller other _ => other = id
  | _ => false

theorem Label.isOf_iff {ρ : Type} {id : Nat} {label : Label ρ} :
    label.isOf id = true ↔ ∃ move, label = .caller id move := by
  constructor
  · intro h
    unfold isOf at h
    split at h
    · rename_i other move
      exact ⟨move, by rw [of_decide_eq_true h]⟩
    · cases h
  · rintro ⟨move, rfl⟩
    exact decide_eq_true rfl

namespace Worker

variable {ρ : Type} {w w' : Worker ρ} {events : List Event} {id other : Nat}

theorem leave_goOn_self (w : Worker ρ) (id : Nat) (phase : Caller ρ) :
    (w.goOn id phase).leave id = w.leave id := by
  rw [leave, leave, goOn, OrderedMap.erase_insert_self]

theorem leave_goOn_of_ne (w : Worker ρ) (hne : other ≠ id)
    (phase : Caller ρ) :
    (w.goOn other phase).leave id = (w.leave id).goOn other phase := by
  rw [leave, goOn, goOn, leave, OrderedMap.erase_insert_of_ne _ hne]

theorem leave_leave_comm (w : Worker ρ) (id other : Nat) :
    (w.leave other).leave id = (w.leave id).leave other := by
  rw [leave, leave, leave, leave, OrderedMap.erase_erase_comm]

theorem leave_of_absent (hid : w.callers.get? id = none) : w.leave id = w := by
  rw [leave, OrderedMap.erase_of_get?_eq_none hid]

theorem leave_updateCache (w : Worker ρ) (id generation : Nat)
    (change : SchemaCache → SchemaCache) :
    (w.updateCache generation change).leave id =
      (w.leave id).updateCache generation change := by
  simp only [updateCache, leave]
  split
  · split
    · rfl
    · rfl
  · rfl

theorem writeColumns_leave (w : Worker ρ) (id : Nat) (work : Assignment ρ)
    (result : Outcome ColumnIndex) :
    (w.leave id).writeColumns work result =
      ((w.writeColumns work result).1.leave id,
        (w.writeColumns work result).2) := by
  cases result with
  | ok columns =>
      simp only [writeColumns]
      rw [leave_updateCache]
  | error e => rfl

theorem writeForeignKeys_leave (w : Worker ρ) (id : Nat) (work : Assignment ρ)
    (result : Outcome ForeignKeyIndex) :
    (w.leave id).writeForeignKeys work result =
      ((w.writeForeignKeys work result).1.leave id,
        (w.writeForeignKeys work result).2) := by
  cases result with
  | ok foreignKeys =>
      simp only [writeForeignKeys]
      rw [leave_updateCache]
  | error e => rfl

/-- Another caller can do without a caller what it can do with it. -/
theorem CallerMove.leave {move : CallerStep ρ}
    (h : CallerMove w other move w' events) (hne : other ≠ id) :
    CallerMove (w.leave id) other move (w'.leave id) events := by
  have hget : (w.leave id).callers.get? other = w.callers.get? other := by
    rw [get?_leave, if_neg hne]
  cases h with
  | refuse repository hother hstopped =>
      exact .refuse repository (hget.trans hother) hstopped
  | bind repository hother hopen =>
      rw [leave_goOn_of_ne _ hne]
      exact .bind repository (hget.trans hother) hopen
  | request hother =>
      rw [leave_goOn_of_ne _ hne]
      exact .request (hget.trans hother)
  | unready hother hcompleted =>
      exact .unready (hget.trans hother) hcompleted
  | readCompleted hother hcompleted =>
      rw [leave_goOn_of_ne _ hne]
      exact .readCompleted (hget.trans hother) hcompleted
  | stopAgain hother hdismissed =>
      exact .stopAgain (hget.trans hother) hdismissed
  | stop hother hdismissed =>
      rw [leave_goOn_of_ne _ hne]
      exact .stop (hget.trans hother) hdismissed
  | answered repository inquiry call outcome next hother hnext =>
      rw [leave_goOn_of_ne _ hne]
      exact .answered repository inquiry call outcome next (hget.trans hother)
        hnext
  | brokenOff repository call next hother =>
      rw [leave_leave_comm]
      exact .brokenOff repository call next (hget.trans hother)
  | giveUp repository e hother =>
      rw [leave_leave_comm]
      exact .giveUp repository e (hget.trans hother)
  | install repository topology hother =>
      rw [leave_goOn_of_ne _ hne]
      exact .install repository topology (hget.trans hother)
  | count installed hother =>
      rw [leave_goOn_of_ne _ hne]
      exact .count installed (hget.trans hother)
  | send installed hother =>
      rw [leave_leave_comm]
      exact .send installed (hget.trans hother)
  | readRequested completed hother =>
      rw [leave_leave_comm]
      exact .readRequested completed (hget.trans hother)
  | mark hother =>
      rw [leave_goOn_of_ne _ hne]
      exact .mark (hget.trans hother)
  | dismiss hother =>
      rw [leave_leave_comm]
      exact .dismiss (hget.trans hother)

/-- The loop can do without a caller what it can do with it. -/
theorem LoopMove.leave {move : LoopStep} (h : LoopMove w move w' events)
    (id : Nat) : LoopMove (w.leave id) move (w'.leave id) events := by
  cases h with
  | exit hloop hshutdown => exact .exit hloop hshutdown
  | take hloop hsignal hshutdown => exact .take hloop hsignal hshutdown
  | readRequests hloop => exact .readRequests hloop
  | begin requests hloop => exact .begin requests hloop
  | columnsAnswered requests work inquiry call outcome next hloop hnext =>
      exact .columnsAnswered requests work inquiry call outcome next hloop hnext
  | columnsBroken requests work call next hloop =>
      exact .columnsBroken requests work call next hloop
  | writeColumns requests work result hloop =>
      have hwrite := LoopMove.writeColumns (w := w.leave id) requests work
        result hloop
      rw [writeColumns_leave] at hwrite
      exact hwrite
  | foreignKeysAnswered requests work inquiry call outcome next hloop hnext =>
      exact .foreignKeysAnswered requests work inquiry call outcome next hloop
        hnext
  | foreignKeysBroken requests work call next hloop =>
      exact .foreignKeysBroken requests work call next hloop
  | unfilable requests work hloop => exact .unfilable requests work hloop
  | writeForeignKeys requests work result hloop =>
      have hwrite := LoopMove.writeForeignKeys (w := w.leave id) requests work
        result hloop
      rw [writeForeignKeys_leave] at hwrite
      exact hwrite
  | countRun requests hloop => exact .countRun requests hloop
  | complete requests hloop => exact .complete requests hloop

/-- Whoever is there, the steps of the others are the same without it. -/
theorem step_leave {label : Label ρ} (h : w.step label = some (w', events))
    (hlabel : label.isOf id = false) (hid : (w.callers.get? id).isSome) :
    (w.leave id).step label = some (w'.leave id, events) := by
  cases label with
  | caller other move =>
      have hne : other ≠ id := by simpa [Label.isOf] using hlabel
      exact ((callerMove_of_step h).leave hne).step_eq
  | loop move => exact ((loopMove_of_step h).leave id).step_eq
  | drop =>
      simp only [step] at h
      split at h
      · rename_i hempty
        rw [OrderedMap.isSome_get?_iff, OrderedMap.keys,
          List.isEmpty_iff.1 hempty] at hid
        cases hid
      · cases h

/-! The last steps of a caller, none of which depends on the others. -/

theorem run_signalling {installed : Option Nat}
    (hid : w.callers.get? id = some (.signalling installed)) :
    w.run [.caller id .send] =
      some (w.signalled.leave id, [returned id installed]) :=
  run_singleton_eq_some_iff.2 (CallerMove.send installed hid).step_eq

theorem run_requesting {installed : Option Nat}
    (hid : w.callers.get? id = some (.requesting installed)) :
    w.run [.caller id .count, .caller id .send] =
      some ({ w with requested := w.requested + 1 }.signalled.leave id,
        [returned id installed]) := by
  have hcount := (CallerMove.count installed hid).step_eq
  have hsend := run_signalling (get?_goOn_self
    { w with requested := w.requested + 1 } id (.signalling installed))
  have hleave := leave_goOn_self
    { w with requested := w.requested + 1 }.signalled id
    (.signalling installed)
  refine run_cons_eq_some_iff.2 ⟨_, _, _, hcount, hsend.trans ?_, rfl⟩
  exact congrArg (fun w : Worker ρ => some (w, [returned id installed])) hleave

theorem run_install {repository : ρ} {topology : Topology}
    (hid : w.callers.get? id =
      some (.binding repository (.done (.ok topology)))) :
    w.run [.caller id .install, .caller id .count, .caller id .send] =
      some ({ w.install repository topology with
          requested := w.requested + 1 }.signalled.leave id,
        [.bound id (.ok ())]) := by
  have hinstall := (CallerMove.install repository topology hid).step_eq
  have hrest := run_requesting (get?_goOn_self (w.install repository topology)
    id (.requesting (some (w.generation + 1))))
  have hleave := leave_goOn_self { w.install repository topology with
    requested := w.requested + 1 }.signalled id
    (.requesting (some (w.generation + 1)))
  refine run_cons_eq_some_iff.2 ⟨_, _, _, hinstall, hrest.trans ?_, rfl⟩
  exact congrArg
    (fun w : Worker ρ => some (w, [Event.bound id (.ok ())])) hleave

theorem run_request (hid : w.callers.get? id = none) :
    w.run [.caller id .request, .caller id .count, .caller id .send] =
      some ({ w with requested := w.requested + 1 }.signalled,
        [.sent id]) := by
  have hrequest := (CallerMove.request hid).step_eq
  have hrest := run_requesting (get?_goOn_self w id (.requesting none))
  have hleave := leave_goOn_self
    { w with requested := w.requested + 1 }.signalled id (.requesting none)
  refine run_cons_eq_some_iff.2 ⟨_, _, _, hrequest, hrest.trans ?_, rfl⟩
  have habsent := leave_of_absent
    (w := { w with requested := w.requested + 1 }.signalled) hid
  exact congrArg (fun w : Worker ρ => some (w, [Event.sent id]))
    (hleave.trans habsent)

theorem run_stop (hid : w.callers.get? id = none)
    (hdismissed : w.dismissed = false) :
    w.run [.caller id .stop, .caller id .mark, .caller id .dismiss] =
      some ({ w with dismissed := true, stopped := true, shutdown := true },
        [.stopped id]) := by
  have hstop := (CallerMove.stop hid hdismissed).step_eq
  have hmark := (CallerMove.mark (get?_goOn_self
    { w with dismissed := true } id .stopping)).step_eq
  have hdismiss := (CallerMove.dismiss (get?_goOn_self
    { { w with dismissed := true }.goOn id .stopping with stopped := true } id
    .dismissing)).step_eq
  refine run_cons_eq_some_iff.2 ⟨_, _, _, hstop, ?_, rfl⟩
  refine run_cons_eq_some_iff.2 ⟨_, _, _, hmark, ?_, rfl⟩
  refine (run_singleton_eq_some_iff.2 hdismiss).trans ?_
  have hleave : (({ w with
      dismissed := true, stopped := true, shutdown := true }.goOn id
        .stopping).goOn id .dismissing).leave id =
      { w with dismissed := true, stopped := true, shutdown := true } := by
    rw [leave_goOn_self, leave_goOn_self]
    exact leave_of_absent hid
  exact congrArg (fun w : Worker ρ => some (w, [Event.stopped id])) hleave

end Worker

namespace History

variable {ρ : Type} {H : History ρ}

theorem repliesTo_succ {caller first n : Nat} {label : Label ρ}
    (hfirst : first ≤ n) (hlabel : H.steps[n]? = some label) :
    H.repliesTo caller first (n + 1) =
      H.repliesTo caller first n ++ (label.replyTo? caller).toList :=
  H.filterMap_steps_succ (Label.replyTo? caller) hfirst hlabel

/-- The first `last` steps, without those that a caller has taken from step
`first` on. -/
def without (H : History ρ) (caller first last : Nat) : List (Label ρ) :=
  H.steps.take first ++
    ((H.steps.take last).drop first).filter fun label => !label.isOf caller

theorem without_self (H : History ρ) (caller first : Nat) :
    H.without caller first first = H.steps.take first := by
  rw [without, H.steps_drop_self, List.filter_nil, List.append_nil]

theorem without_succ {caller first n : Nat} {label : Label ρ}
    (hfirst : first ≤ n) (hlabel : H.steps[n]? = some label) :
    H.without caller first (n + 1) =
      H.without caller first n ++
        if label.isOf caller then [] else [label] := by
  rw [without, H.steps_drop_succ hfirst hlabel, List.filter_append,
    ← List.append_assoc, ← without]
  cases hown : label.isOf caller with
  | true => simp [hown]
  | false => simp [hown]

end History

end SchemaScope
