import SchemaScope.Proofs.Worker.History

/-!
No request is lost. One signal stands for any number of requests, and a request
that finds a signal leaves none of its own; yet a worker that has come to rest
has refreshed for all requests it has counted.
-/

namespace SchemaScope

namespace Worker

variable {ρ : Type} {w w' : Worker ρ} {events : List Event}

/-- The number of requests that the loop has refreshed for or is refreshing
for. A loop that has taken a signal has yet to read the number. -/
def accounted? (w : Worker ρ) : Option Nat :=
  match w.loop with
  | .waiting => some w.completed
  | .counted requests | .columns requests _ _ | .foreignKeys requests _ _
  | .refreshed requests | .completing requests => some requests
  | .signalled | .exited | .crashed => none

/-- A signal is there for the loop, or is going to be left. -/
def Signalling (w : Worker ρ) : Prop :=
  w.signal = true ∨
    ∃ id installed, w.callers.get? id = some (.signalling installed)

/-- Whatever requests the loop has not accounted for, it is going to hear
of. This is what every step keeps. -/
def LosesNone (w : Worker ρ) : Prop :=
  ∀ requests, w.accounted? = some requests →
    requests = w.requested ∨ w.Signalling

theorem accounted?_beginRefresh (w : Worker ρ) (requests : Nat) :
    accounted? { w with loop := w.beginRefresh requests } = some requests := by
  simp only [accounted?, beginRefresh]
  cases w.bound with
  | none => rfl
  | some repository => cases w.cache? <;> rfl

theorem not_isOver_of_accounted {requests : Nat}
    (h : w.accounted? = some requests) : w.loop.isOver = false := by
  unfold accounted? at h
  cases hloop : w.loop with
  | exited => simp [hloop] at h
  | crashed => simp [hloop] at h
  | _ => rfl

namespace CallerMove

variable {id : Nat} {move : CallerStep ρ}

theorem accounted?_eq (h : CallerMove w id move w' events) :
    w'.accounted? = w.accounted? := by
  rw [accounted?, accounted?, h.loop_eq, h.completed_eq]

/-- A request that has been counted has nothing to do but to leave its
signal. -/
theorem eq_send_of_signalling (h : CallerMove w id move w' events)
    {installed : Option Nat}
    (hid : w.callers.get? id = some (.signalling installed)) :
    move = .send := by
  cases h with
  | send => rfl
  | _ => simp_all

/-- A loop that is not over gets the signal of a request. -/
theorem signal_of_send (h : CallerMove w id .send w' events)
    (hover : w.loop.isOver = false) : w'.signal = true := by
  cases h with
  | send =>
      change (w.signal || !w.loop.isOver) = true
      rw [hover]
      exact Bool.or_true w.signal

theorem signalling (h : CallerMove w id move w' events) (hmove : move ≠ .send)
    (hw : w.Signalling) : w'.Signalling := by
  rcases hw with hsignal | ⟨k, installed, hk⟩
  · exact .inl ((h.signal_eq hmove).trans hsignal)
  · have hne : k ≠ id := by
      rintro rfl
      exact hmove (h.eq_send_of_signalling hk)
    exact .inr ⟨k, installed, (h.get?_of_ne hne).trans hk⟩

theorem losesNone (h : CallerMove w id move w' events) (hw : w.LosesNone) :
    w'.LosesNone := by
  intro requests haccounted
  rw [h.accounted?_eq] at haccounted
  by_cases hcount : move = .count
  · subst hcount
    cases h with
    | count installed hid =>
        refine .inr (.inr ⟨id, installed, ?_⟩)
        rw [get?_goOn, if_pos rfl]
  · by_cases hsend : move = .send
    · subst hsend
      have hover := not_isOver_of_accounted haccounted
      exact .inr (.inl (h.signal_of_send hover))
    · rw [h.requested_eq hcount]
      exact (hw requests haccounted).imp_right (h.signalling hsend)

end CallerMove

namespace LoopMove

variable {move : LoopStep}

theorem signalling (h : LoopMove w move w' events) (hmove : move ≠ .take)
    (hw : w.Signalling) : w'.Signalling := by
  rw [Signalling, h.signal_eq hmove, h.callers_eq]
  exact hw

/-- The loop accounts for what it accounted for before, or for all requests
that there are. -/
theorem accounted?_cases (h : LoopMove w move w' events) {requests : Nat}
    (hrequests : w'.accounted? = some requests) :
    move ≠ .take ∧
      (requests = w'.requested ∨ w.accounted? = some requests) := by
  cases h with
  | exit | take | columnsBroken | foreignKeysBroken | unfilable =>
      simp [accounted?] at hrequests
  | readRequests =>
      refine ⟨by simp, .inl ?_⟩
      simpa [accounted?] using hrequests.symm
  | begin seen hloop =>
      rw [accounted?_beginRefresh] at hrequests
      exact ⟨by simp, .inr (by simpa [accounted?, hloop] using hrequests)⟩
  | columnsAnswered _ _ _ _ _ _ hloop
  | foreignKeysAnswered _ _ _ _ _ _ hloop
  | writeColumns _ _ _ hloop | writeForeignKeys _ _ _ hloop
  | countRun _ hloop | complete _ hloop =>
      exact ⟨by simp, .inr (by simpa [accounted?, hloop] using hrequests)⟩

theorem losesNone (h : LoopMove w move w' events) (hw : w.LosesNone) :
    w'.LosesNone := by
  intro requests hrequests
  obtain ⟨hmove, hall | hbefore⟩ := h.accounted?_cases hrequests
  · exact .inl hall
  · rw [h.requested_eq]
    exact (hw requests hbefore).imp_right (h.signalling hmove)

end LoopMove

theorem losesNone_initial : (initial : Worker ρ).LosesNone := by
  intro requests hrequests
  exact .inl (Option.some.inj hrequests).symm

theorem losesNone_step {label : Label ρ}
    (h : w.step label = some (w', events)) (hw : w.LosesNone) :
    w'.LosesNone := by
  cases label with
  | caller id move => exact (callerMove_of_step h).losesNone hw
  | loop move => exact (loopMove_of_step h).losesNone hw
  | drop =>
      obtain ⟨rfl, rfl⟩ := eq_of_drop h
      exact hw

theorem Reachable.losesNone (h : w.Reachable) : w.LosesNone :=
  h.induction losesNone_initial losesNone_step

theorem LosesNone.completed_eq (hw : w.LosesNone) (hloop : w.loop = .waiting)
    (hsignal : w.signal = false)
    (hcallers : ∀ id installed,
      w.callers.get? id ≠ some (.signalling installed)) :
    w.completed = w.requested := by
  have haccounted : w.accounted? = some w.completed := by
    simp [accounted?, hloop]
  rcases hw w.completed haccounted with heq | hsome | ⟨id, installed, hid⟩
  · exact heq
  · rw [hsignal] at hsome
    cases hsome
  · exact absurd hid (hcallers id installed)

/-- A worker at rest has refreshed for every request that was counted, and
is ready unless there was none. -/
theorem completed_eq_requested_of_rest (h : w.Reachable)
    (hloop : w.loop = .waiting) (hsignal : w.signal = false)
    (hcallers : ∀ id installed,
      w.callers.get? id ≠ some (.signalling installed)) :
    w.completed = w.requested ∧ (w.requested ≠ 0 → w.isReady = true) := by
  have heq := h.losesNone.completed_eq hloop hsignal hcallers
  refine ⟨heq, ?_⟩
  intro hne
  simp [isReady, heq, hne]

namespace RestWitness

/-- Three requests. The second one finds the signal of the third and leaves
none of its own; the loop reads their number while the first is covered. -/
def steps : List (Label Unit) :=
  [.caller 0 .request, .caller 1 .request, .caller 0 .count, .caller 0 .send,
    .loop .take, .loop .readRequests, .caller 1 .count, .caller 2 .request,
    .caller 2 .count, .caller 2 .send, .caller 1 .send, .loop .begin,
    .loop .countRun, .loop .complete, .loop .take, .loop .readRequests,
    .loop .begin, .loop .countRun, .loop .complete]

/-- The worker that has come to rest. -/
def rested : Worker Unit := { requested := 3, completed := 3, runs := 2 }

theorem reachable_rested : rested.Reachable :=
  ⟨steps, [.sent 0, .sent 2, .sent 1], rfl⟩

theorem completed_eq_requested_rested :
    rested.loop = .waiting ∧ rested.signal = false ∧
      (∀ id installed, rested.callers.get? id ≠ some (.signalling installed)) ∧
      rested.completed = rested.requested ∧
      (rested.requested ≠ 0 → rested.isReady = true) :=
  have hcallers : ∀ id installed,
      rested.callers.get? id ≠ some (.signalling installed) := nofun
  ⟨rfl, rfl, hcallers,
    completed_eq_requested_of_rest reachable_rested rfl rfl hcallers⟩

end RestWitness

end Worker

end SchemaScope
