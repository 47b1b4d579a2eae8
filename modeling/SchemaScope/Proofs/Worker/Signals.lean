import SchemaScope.Proofs.Worker.Rest

/-!
Counting signals. A request leaves one signal at most, and the loop takes one
signal for each refresh; so there are no more refreshes than requests. Neither
does the number of complete requests ever pass the number of requests, and it
never goes back.
-/

namespace SchemaScope

namespace OrderedMap

variable {κ α : Type} [DecidableEq κ]

/-- The number of keys whose value has a property. -/
def countValues (m : OrderedMap κ α) (p : α → Bool) : Nat :=
  m.entries.countP (p ·.2)

theorem countP_updateEntry (p : α → Bool) (key : κ) (value : α)
    (entries : List (κ × α)) :
    (updateEntry key (fun _ => value) entries).countP (p ·.2) +
        (((entries.find? (·.1 = key)).map Prod.snd).any p).toNat =
      entries.countP (p ·.2) + (p value).toNat := by
  induction entries with
  | nil => cases h : p value <;> simp [updateEntry, h]
  | cons head rest ih =>
      obtain ⟨k, a⟩ := head
      by_cases hk : k = key
      · cases ha : p a <;> cases hv : p value <;>
          simp [updateEntry, hk, ha, hv]
      · simp only [updateEntry, if_neg hk, List.countP_cons, List.find?_cons,
          decide_eq_false hk]
        omega

theorem countP_erased (p : α → Bool) (key : κ) {entries : List (κ × α)}
    (h : (entries.map Prod.fst).Nodup) :
    (entries.filter (·.1 ≠ key)).countP (p ·.2) +
        (((entries.find? (·.1 = key)).map Prod.snd).any p).toNat =
      entries.countP (p ·.2) := by
  induction entries with
  | nil => rfl
  | cons head rest ih =>
      obtain ⟨k, a⟩ := head
      obtain ⟨hnot, hrest⟩ := List.nodup_cons.1 h
      by_cases hk : k = key
      · subst hk
        have hall : rest.filter (·.1 ≠ k) = rest := by
          refine List.filter_eq_self.2 fun e he => ?_
          have hne : e.1 ≠ k :=
            fun heq => hnot (List.mem_map.2 ⟨e, he, heq⟩)
          exact decide_eq_true hne
        rw [List.filter_cons_of_neg (by simp), hall]
        cases ha : p a <;> simp [ha]
      · have ih := ih hrest
        rw [List.filter_cons_of_pos (by simpa using hk)]
        simp only [List.countP_cons, List.find?_cons, decide_eq_false hk]
        omega

theorem countValues_insert (m : OrderedMap κ α) (p : α → Bool) (key : κ)
    (value : α) :
    (m.insert key value).countValues p + ((m.get? key).any p).toNat =
      m.countValues p + (p value).toNat :=
  countP_updateEntry p key value m.entries

theorem countValues_erase (m : OrderedMap κ α) (p : α → Bool) (key : κ) :
    (m.erase key).countValues p + ((m.get? key).any p).toNat =
      m.countValues p :=
  countP_erased p key m.distinct

end OrderedMap

/-- A caller has counted its request and has not left its signal. -/
def Caller.isSignalling {ρ : Type} : Caller ρ → Bool
  | signalling _ => true
  | _ => false

namespace LoopPhase

variable {ρ : Type}

/-- A refresh is in flight: a signal has been taken for it, and it has not been
declared complete. -/
def inFlight : LoopPhase ρ → Bool
  | waiting | exited | crashed => false
  | _ => true

/-- A refresh is in flight and has not been counted. -/
def isUncounted : LoopPhase ρ → Bool
  | waiting | completing _ | exited | crashed => false
  | _ => true

theorem inFlight_of_isUncounted {phase : LoopPhase ρ}
    (h : phase.isUncounted = true) : phase.inFlight = true := by
  cases phase with
  | waiting | completing | exited | crashed => cases h
  | _ => rfl

theorem isOver_of_inFlight {phase : LoopPhase ρ} (h : phase.inFlight = true) :
    phase.isOver = false := by
  cases phase with
  | exited | crashed => cases h
  | _ => rfl

end LoopPhase

namespace Worker

variable {ρ : Type} {w w' : Worker ρ} {events : List Event}

/-- Requests that have been counted and whose signal has not been left. -/
def undelivered (w : Worker ρ) : Nat :=
  w.callers.countValues Caller.isSignalling

/-- Signals that have been left and not been lost: one for each refresh that
has been counted or is going to be, and the one that waits. -/
def accepted (w : Worker ρ) : Nat :=
  w.runs + w.loop.isUncounted.toNat + w.signal.toNat

namespace CallerMove

variable {id : Nat} {move : CallerStep ρ}

/-- Whatever is counted of the callers, a step changes it by what becomes of
the caller that takes the step. -/
theorem countValues_callers (h : CallerMove w id move w' events)
    (p : Caller ρ → Bool) :
    w'.callers.countValues p + ((w.callers.get? id).any p).toNat =
      w.callers.countValues p + ((w'.callers.get? id).any p).toNat := by
  cases h with
  | refuse | unready | stopAgain => rfl
  | brokenOff | giveUp | send | readRequested | dismiss =>
      rw [get?_leave, if_pos rfl]
      exact w.callers.countValues_erase p id
  | _ =>
      rw [get?_goOn, if_pos rfl]
      exact w.callers.countValues_insert p id _

theorem runs_eq (h : CallerMove w id move w' events) : w'.runs = w.runs := by
  cases h <;> rfl

theorem requested_eq_add (h : CallerMove w id move w' events) :
    w'.requested =
      w.requested + ((w'.callers.get? id).any Caller.isSignalling).toNat := by
  cases h with
  | refuse _ hid | unready hid | stopAgain hid => rw [hid]; rfl
  | brokenOff | giveUp | send | readRequested | dismiss =>
      rw [get?_leave, if_pos rfl]
      rfl
  | _ =>
      rw [get?_goOn, if_pos rfl]
      rfl

theorem accepted_le_add (h : CallerMove w id move w' events) :
    w'.accepted ≤
      w.accepted + ((w.callers.get? id).any Caller.isSignalling).toNat := by
  cases h with
  | send installed hid =>
      rw [hid]
      have hsignal : (w.signal || !w.loop.isOver).toNat ≤ w.signal.toNat + 1 :=
        Nat.le_trans (Bool.toNat_le _) (Nat.le_add_left 1 _)
      exact Nat.add_le_add_left hsignal _
  | _ => exact Nat.le_add_right _ _

theorem accepted_eq (h : CallerMove w id move w' events)
    (hmove : move ≠ .send) : w'.accepted = w.accepted := by
  rw [accepted, h.loop_eq, h.signal_eq hmove, h.runs_eq, accepted]

/-- Every signal is that of a request of its own. -/
theorem accepted_add_le (h : CallerMove w id move w' events) :
    w'.accepted + w'.undelivered + w.requested ≤
      w.accepted + w.undelivered + w'.requested := by
  have hcallers := h.countValues_callers Caller.isSignalling
  change w'.undelivered + _ = w.undelivered + _ at hcallers
  have hrequested := h.requested_eq_add
  have haccepted := h.accepted_le_add
  omega

end CallerMove

theorem beginRefresh_cases (w : Worker ρ) (requests : Nat) :
    (∃ work, w.beginRefresh requests =
        .columns requests work (ColumnIndex.inquiry work.schemas)) ∨
      w.beginRefresh requests = .refreshed requests := by
  unfold beginRefresh
  cases w.bound with
  | none => exact .inr rfl
  | some repository =>
      cases w.cache? with
      | none => exact .inr rfl
      | some cache =>
          exact .inl
            ⟨⟨repository, cache.topology.schemas, cache.generation⟩, rfl⟩

theorem isUncounted_beginRefresh (w : Worker ρ) (requests : Nat) :
    (w.beginRefresh requests).isUncounted = true := by
  rcases w.beginRefresh_cases requests with ⟨work, heq⟩ | heq
  · rw [heq]
    rfl
  · rw [heq]
    rfl

namespace LoopMove

variable {move : LoopStep}

theorem isOver_eq_false (h : LoopMove w move w' events) :
    w.loop.isOver = false := by
  cases h with
  | exit hloop | take hloop | readRequests hloop | begin _ hloop
  | columnsAnswered _ _ _ _ _ _ hloop | columnsBroken _ _ _ _ hloop
  | writeColumns _ _ _ hloop | foreignKeysAnswered _ _ _ _ _ _ hloop
  | foreignKeysBroken _ _ _ _ hloop | unfilable _ _ hloop
  | writeForeignKeys _ _ _ hloop | countRun _ hloop | complete _ hloop =>
      rw [hloop]
      rfl

theorem ne_take (h : LoopMove w move w' events)
    (hflight : w.loop.inFlight = true) : move ≠ .take := by
  rintro rfl
  cases h with
  | take hloop =>
      rw [hloop] at hflight
      cases hflight

theorem undelivered_eq (h : LoopMove w move w' events) :
    w'.undelivered = w.undelivered := by
  rw [undelivered, h.callers_eq, undelivered]

/-- The loop counts a refresh for every signal it takes, unless it is broken
off. -/
theorem accepted_eq (h : LoopMove w move w' events)
    (hgoes : w'.loop ≠ .crashed) : w'.accepted = w.accepted := by
  cases h with
  | take hloop hsignal => simp [accepted, hloop, hsignal, LoopPhase.isUncounted]
  | begin requests hloop =>
      change w.runs + (w.beginRefresh requests).isUncounted.toNat + _ = _
      rw [isUncounted_beginRefresh, accepted, hloop]
      rfl
  | writeColumns requests work result hloop =>
      obtain ⟨caches, heq⟩ := writeColumns_eq w work result
      simp [heq, accepted, hloop, LoopPhase.isUncounted]
  | writeForeignKeys requests work result hloop =>
      obtain ⟨caches, heq⟩ := writeForeignKeys_eq w work result
      simp [heq, accepted, hloop, LoopPhase.isUncounted]
  | columnsBroken | foreignKeysBroken | unfilable => exact absurd rfl hgoes
  | exit hloop | readRequests hloop | columnsAnswered _ _ _ _ _ _ hloop
  | foreignKeysAnswered _ _ _ _ _ _ hloop | complete _ hloop =>
      simp [accepted, hloop, LoopPhase.isUncounted]
  | countRun _ hloop =>
      simp [accepted, hloop, LoopPhase.isUncounted]

theorem accepted_le (h : LoopMove w move w' events) :
    w'.accepted ≤ w.accepted := by
  have heq := h.accepted_eq
  cases h with
  | columnsBroken | foreignKeysBroken | unfilable =>
      simp only [accepted, LoopPhase.isUncounted, Bool.toNat_false]
      omega
  | begin requests =>
      refine Nat.le_of_eq (heq fun hcrashed => ?_)
      replace hcrashed : w.beginRefresh requests = .crashed := hcrashed
      have huncounted := w.isUncounted_beginRefresh requests
      rw [hcrashed] at huncounted
      cases huncounted
  | _ => exact Nat.le_of_eq (heq nofun)

end LoopMove

/-- A loop that is over stays so. -/
theorem isOver_of_step {label : Label ρ}
    (h : w.step label = some (w', events)) (hover : w.loop.isOver = true) :
    w'.loop.isOver = true := by
  cases label with
  | caller id move => rw [(callerMove_of_step h).loop_eq, hover]
  | loop step =>
      rw [(loopMove_of_step h).isOver_eq_false] at hover
      cases hover
  | drop => rw [(eq_of_drop h).1, hover]

/-- No more signals than requests whose signal has been left. -/
theorem accepted_add_le_of_step {label : Label ρ}
    (h : w.step label = some (w', events))
    (hw : w.accepted + w.undelivered ≤ w.requested) :
    w'.accepted + w'.undelivered ≤ w'.requested := by
  cases label with
  | caller id move =>
      have := (callerMove_of_step h).accepted_add_le
      omega
  | loop move =>
      have hmove := loopMove_of_step h
      rw [hmove.undelivered_eq, hmove.requested_eq]
      exact Nat.le_trans (Nat.add_le_add_right hmove.accepted_le _) hw
  | drop =>
      rw [(eq_of_drop h).1]
      exact hw

theorem Reachable.accepted_add_le (h : w.Reachable) :
    w.accepted + w.undelivered ≤ w.requested :=
  h.induction (Nat.le_refl 0) accepted_add_le_of_step

theorem Reachable.runs_le_requested (h : w.Reachable) :
    w.runs ≤ w.requested := by
  have := h.accepted_add_le
  unfold accepted at this
  omega

/-- Every request that has been counted has left its signal. -/
def Delivered (w : Worker ρ) : Prop :=
  ∀ id installed, w.callers.get? id ≠ some (.signalling installed)

namespace Delivered

variable {id : Nat} {move : CallerStep ρ}

theorem ne_send (hw : w.Delivered) (h : CallerMove w id move w' events) :
    move ≠ .send := by
  rintro rfl
  cases h with
  | send installed hid => exact hw id installed hid

theorem callerMove (hw : w.Delivered) (h : CallerMove w id move w' events)
    (hmove : move ≠ .count) : w'.Delivered := by
  intro k installed hk
  by_cases hid : k = id
  · -- A caller that is about to signal would have been counted.
    subst hid
    have hrequested := h.requested_eq_add
    rw [h.requested_eq hmove, hk] at hrequested
    exact absurd hrequested (Nat.ne_of_lt (Nat.lt_succ_self _))
  · exact hw k installed ((h.get?_of_ne hid).symm.trans hk)

theorem loopMove {step : LoopStep} (hw : w.Delivered)
    (h : LoopMove w step w' events) : w'.Delivered := by
  intro k installed
  rw [h.callers_eq]
  exact hw k installed

end Delivered

/-- As long as no request is counted, no signal is left, and one is lost only
if the loop is broken off. -/
theorem Delivered.accepted_of_step {label : Label ρ} (hw : w.Delivered)
    (h : w.step label = some (w', events))
    (hlabel : ∀ id, label ≠ .caller id .count) :
    w'.Delivered ∧ w'.accepted ≤ w.accepted ∧
      (w'.loop ≠ .crashed → w.loop ≠ .crashed ∧ w'.accepted = w.accepted) := by
  cases label with
  | caller id move =>
      have hmove := callerMove_of_step h
      have hcount : move ≠ .count := fun heq => hlabel id (heq ▸ rfl)
      have heq := hmove.accepted_eq (hw.ne_send hmove)
      refine ⟨hw.callerMove hmove hcount, Nat.le_of_eq heq, fun hgoes => ?_⟩
      exact ⟨hmove.loop_eq ▸ hgoes, heq⟩
  | loop step =>
      have hmove := loopMove_of_step h
      refine ⟨hw.loopMove hmove, hmove.accepted_le, fun hgoes => ?_⟩
      refine ⟨fun hcrashed => ?_, hmove.accepted_eq hgoes⟩
      have hover := hmove.isOver_eq_false
      rw [hcrashed] at hover
      cases hover
  | drop =>
      rw [(eq_of_drop h).1]
      exact ⟨hw, Nat.le_refl _, fun hgoes => ⟨hgoes, rfl⟩⟩

/-- The requests that the loop has accounted for lie between those that are
complete and all of them. -/
structure Bounded (w : Worker ρ) : Prop where
  completed_le : w.completed ≤ w.requested
  accounted : ∀ requests, w.accounted? = some requests →
    w.completed ≤ requests ∧ requests ≤ w.requested

theorem bounded_initial : (initial : Worker ρ).Bounded := by
  refine ⟨Nat.le_refl 0, fun requests haccounted => ?_⟩
  cases haccounted
  exact ⟨Nat.le_refl 0, Nat.le_refl 0⟩

theorem CallerMove.bounded {id : Nat} {move : CallerStep ρ}
    (h : CallerMove w id move w' events) (hw : w.Bounded) : w'.Bounded := by
  have hrequested := h.requested_le
  refine ⟨h.completed_eq ▸ Nat.le_trans hw.completed_le hrequested, ?_⟩
  intro requests haccounted
  rw [h.accounted?_eq] at haccounted
  obtain ⟨hle, hge⟩ := hw.accounted requests haccounted
  exact ⟨h.completed_eq ▸ hle, Nat.le_trans hge hrequested⟩

namespace LoopMove

variable {move : LoopStep}

/-- What the loop declares complete it has accounted for. -/
theorem completed_cases (h : LoopMove w move w' events) :
    w'.completed = w.completed ∨ w.accounted? = some w'.completed := by
  by_cases hmove : move = .complete
  · subst hmove
    cases h with
    | complete requests hloop => exact .inr (by simp [accounted?, hloop])
  · exact .inl (h.completed_eq hmove)

theorem completed_between (h : LoopMove w move w' events) (hw : w.Bounded) :
    w.completed ≤ w'.completed ∧ w'.completed ≤ w'.requested := by
  rw [h.requested_eq]
  rcases h.completed_cases with heq | haccounted
  · rw [heq]
    exact ⟨Nat.le_refl _, hw.completed_le⟩
  · exact hw.accounted _ haccounted

theorem bounded (h : LoopMove w move w' events) (hw : w.Bounded) :
    w'.Bounded := by
  obtain ⟨_, hcompleted⟩ := h.completed_between hw
  refine ⟨hcompleted, ?_⟩
  intro requests hrequests
  obtain ⟨_, rfl | hbefore⟩ := h.accounted?_cases hrequests
  · exact ⟨hcompleted, Nat.le_refl _⟩
  · obtain ⟨hle, hge⟩ := hw.accounted requests hbefore
    rw [h.requested_eq]
    refine ⟨?_, hge⟩
    rcases h.completed_cases with heq | hdeclared
    · exact heq ▸ hle
    · rw [hbefore] at hdeclared
      cases hdeclared
      exact Nat.le_refl _

end LoopMove

theorem bounded_of_step {label : Label ρ}
    (h : w.step label = some (w', events)) (hw : w.Bounded) : w'.Bounded := by
  cases label with
  | caller id move => exact (callerMove_of_step h).bounded hw
  | loop move => exact (loopMove_of_step h).bounded hw
  | drop =>
      obtain ⟨rfl, rfl⟩ := eq_of_drop h
      exact ⟨hw.completed_le, hw.accounted⟩

theorem Reachable.bounded (h : w.Reachable) : w.Bounded :=
  h.induction bounded_initial bounded_of_step

theorem completed_le_of_step {label : Label ρ}
    (h : w.step label = some (w', events)) (hw : w.Bounded) :
    w.completed ≤ w'.completed := by
  cases label with
  | caller id move =>
      exact Nat.le_of_eq (callerMove_of_step h).completed_eq.symm
  | loop move => exact ((loopMove_of_step h).completed_between hw).1
  | drop =>
      obtain ⟨rfl, rfl⟩ := eq_of_drop h
      exact Nat.le_refl _

end Worker

theorem History.completed_le {ρ : Type} (H : History ρ) {m n : Nat}
    (hmn : m ≤ n) : (H.worker m).completed ≤ (H.worker n).completed := by
  refine H.kept_between (P := fun w => (H.worker m).completed ≤ w.completed)
    hmn ?_ (Nat.le_refl _)
  intro k label _ _ hlabel hle
  have hbounded := (H.reachable_worker k).bounded
  exact Nat.le_trans hle
    (Worker.completed_le_of_step (H.step_worker hlabel) hbounded)

end SchemaScope
