import SchemaScope.Worker.Step

/-!
The steps of a worker as rules, one for each thing a caller or the loop can do.
A proof about steps goes through these rules and leaves the functions that take
the steps closed.
-/

namespace SchemaScope

namespace Worker

variable {ρ : Type} {w w' : Worker ρ} {events : List Event}

/-- What a caller can do. The first seven rules are for a caller that comes
in, the others for one that goes on. -/
inductive CallerMove (w : Worker ρ) (id : Nat) :
    CallerStep ρ → Worker ρ → List Event → Prop where
  | refuse (repository : ρ) (hid : w.callers.get? id = none)
      (hstopped : w.stopped = true) :
      CallerMove w id (.bind repository) w [.bound id (.error .workerStopped)]
  | bind (repository : ρ) (hid : w.callers.get? id = none)
      (hstopped : w.stopped = false) :
      CallerMove w id (.bind repository)
        (w.goOn id (.binding repository Topology.inquiry)) []
  | request (hid : w.callers.get? id = none) :
      CallerMove w id .request (w.goOn id (.requesting none)) []
  | unready (hid : w.callers.get? id = none) (hcompleted : w.completed = 0) :
      CallerMove w id .readCompleted w [.ready id false]
  | readCompleted (hid : w.callers.get? id = none)
      (hcompleted : w.completed ≠ 0) :
      CallerMove w id .readCompleted (w.goOn id (.comparing w.completed)) []
  | stopAgain (hid : w.callers.get? id = none)
      (hdismissed : w.dismissed = true) :
      CallerMove w id .stop w [.warning .stoppedTwice, .stopped id]
  | stop (hid : w.callers.get? id = none) (hdismissed : w.dismissed = false) :
      CallerMove w id .stop ({ w with dismissed := true }.goOn id .stopping) []
  | answered (repository : ρ) (inquiry : Inquiry Topology) (call : Call)
      (outcome : Outcome call.Answer) (next : Inquiry Topology)
      (hid : w.callers.get? id = some (.binding repository inquiry))
      (hnext : inquiry.resume? call outcome = some next) :
      CallerMove w id (.answered call outcome)
        (w.goOn id (.binding repository next)) []
  | brokenOff (repository : ρ) (call : Call)
      (next : Outcome call.Answer → Inquiry Topology)
      (hid : w.callers.get? id = some (.binding repository (.ask call next))) :
      CallerMove w id .brokenOff (w.leave id) [.broken id]
  | giveUp (repository : ρ) (e : SchemaError)
      (hid : w.callers.get? id =
        some (.binding repository (.done (.error e)))) :
      CallerMove w id .giveUp (w.leave id) [.bound id (.error e)]
  | install (repository : ρ) (topology : Topology)
      (hid : w.callers.get? id =
        some (.binding repository (.done (.ok topology)))) :
      CallerMove w id .install ((w.install repository topology).goOn id
        (.requesting (some (w.generation + 1)))) []
  | count (installed : Option Nat)
      (hid : w.callers.get? id = some (.requesting installed)) :
      CallerMove w id .count ({ w with requested := w.requested + 1 }.goOn id
        (.signalling installed)) []
  | send (installed : Option Nat)
      (hid : w.callers.get? id = some (.signalling installed)) :
      CallerMove w id .send (w.signalled.leave id) [returned id installed]
  | readRequested (completed : Nat)
      (hid : w.callers.get? id = some (.comparing completed)) :
      CallerMove w id .readRequested (w.leave id)
        [.ready id (completed = w.requested)]
  | mark (hid : w.callers.get? id = some .stopping) :
      CallerMove w id .mark ({ w with stopped := true }.goOn id .dismissing) []
  | dismiss (hid : w.callers.get? id = some .dismissing) :
      CallerMove w id .dismiss ({ w with shutdown := true }.leave id)
        [.stopped id]

/-- What the loop can do. -/
inductive LoopMove (w : Worker ρ) :
    LoopStep → Worker ρ → List Event → Prop where
  | exit (hloop : w.loop = .waiting) (hshutdown : w.shutdown = true) :
      LoopMove w .exit { w with loop := .exited } []
  | take (hloop : w.loop = .waiting) (hsignal : w.signal = true)
      (hshutdown : w.shutdown = false) :
      LoopMove w .take { w with signal := false, loop := .signalled } []
  | readRequests (hloop : w.loop = .signalled) :
      LoopMove w .readRequests { w with loop := .counted w.requested } []
  | begin (requests : Nat) (hloop : w.loop = .counted requests) :
      LoopMove w .begin { w with loop := w.beginRefresh requests } []
  | columnsAnswered (requests : Nat) (work : Assignment ρ)
      (inquiry : Inquiry ColumnIndex) (call : Call)
      (outcome : Outcome call.Answer) (next : Inquiry ColumnIndex)
      (hloop : w.loop = .columns requests work inquiry)
      (hnext : inquiry.resume? call outcome = some next) :
      LoopMove w (.answered call outcome)
        { w with loop := .columns requests work next } []
  | columnsBroken (requests : Nat) (work : Assignment ρ) (call : Call)
      (next : Outcome call.Answer → Inquiry ColumnIndex)
      (hloop : w.loop = .columns requests work (.ask call next)) :
      LoopMove w .brokenOff { w with loop := .crashed } []
  | writeColumns (requests : Nat) (work : Assignment ρ)
      (result : Outcome ColumnIndex)
      (hloop : w.loop = .columns requests work (.done result)) :
      LoopMove w .writeColumns
        { (w.writeColumns work result).1 with
          loop := .foreignKeys requests work
            (ForeignKeyIndex.inquiry work.schemas) }
        (w.writeColumns work result).2
  | foreignKeysAnswered (requests : Nat) (work : Assignment ρ)
      (inquiry : Inquiry (Option ForeignKeyIndex)) (call : Call)
      (outcome : Outcome call.Answer)
      (next : Inquiry (Option ForeignKeyIndex))
      (hloop : w.loop = .foreignKeys requests work inquiry)
      (hnext : inquiry.resume? call outcome = some next) :
      LoopMove w (.answered call outcome)
        { w with loop := .foreignKeys requests work next } []
  | foreignKeysBroken (requests : Nat) (work : Assignment ρ) (call : Call)
      (next : Outcome call.Answer → Inquiry (Option ForeignKeyIndex))
      (hloop : w.loop = .foreignKeys requests work (.ask call next)) :
      LoopMove w .brokenOff { w with loop := .crashed } []
  | unfilable (requests : Nat) (work : Assignment ρ)
      (hloop : w.loop = .foreignKeys requests work (.done (.ok none))) :
      LoopMove w .writeForeignKeys { w with loop := .crashed } []
  | writeForeignKeys (requests : Nat) (work : Assignment ρ)
      (result : Outcome ForeignKeyIndex)
      (hloop : w.loop = .foreignKeys requests work (.done (result.map some))) :
      LoopMove w .writeForeignKeys
        { (w.writeForeignKeys work result).1 with loop := .refreshed requests }
        (w.writeForeignKeys work result).2
  | countRun (requests : Nat) (hloop : w.loop = .refreshed requests) :
      LoopMove w .countRun
        { w with runs := w.runs + 1, loop := .completing requests } []
  | complete (requests : Nat) (hloop : w.loop = .completing requests) :
      LoopMove w .complete { w with completed := requests, loop := .waiting } []

theorem callerMove_of_arrive {id : Nat} {move : CallerStep ρ}
    (hid : w.callers.get? id = none)
    (h : w.arrive id move = some (w', events)) :
    CallerMove w id move w' events := by
  cases move with
  | bind repository =>
      simp only [arrive] at h
      split at h
      · rename_i hstopped
        cases h
        exact .refuse repository hid hstopped
      · rename_i hstopped
        cases h
        exact .bind repository hid (Bool.eq_false_iff.2 hstopped)
  | request =>
      cases h
      exact .request hid
  | readCompleted =>
      simp only [arrive] at h
      split at h
      · rename_i hcompleted
        cases h
        exact .unready hid hcompleted
      · rename_i hcompleted
        cases h
        exact .readCompleted hid hcompleted
  | stop =>
      simp only [arrive] at h
      split at h
      · rename_i hdismissed
        cases h
        exact .stopAgain hid hdismissed
      · rename_i hdismissed
        cases h
        exact .stop hid (Bool.eq_false_iff.2 hdismissed)
  | _ => cases h

theorem callerMove_of_callerStep {id : Nat} {phase : Caller ρ}
    {move : CallerStep ρ} (hid : w.callers.get? id = some phase)
    (h : w.callerStep id phase move = some (w', events)) :
    CallerMove w id move w' events := by
  unfold callerStep at h
  split at h
  · rename_i repository inquiry call outcome
    obtain ⟨next, hnext, heq⟩ := Option.map_eq_some_iff.1 h
    cases heq
    exact .answered repository inquiry call outcome next hid hnext
  all_goals cases h
  · exact .brokenOff _ _ _ hid
  · exact .giveUp _ _ hid
  · exact .install _ _ hid
  · exact .count _ hid
  · exact .send _ hid
  · exact .readRequested _ hid
  · exact .mark hid
  · exact .dismiss hid

/-- A step of a caller follows one of the rules. -/
theorem callerMove_of_step {id : Nat} {move : CallerStep ρ}
    (h : w.step (.caller id move) = some (w', events)) :
    CallerMove w id move w' events := by
  simp only [step] at h
  split at h
  · rename_i phase hid
    exact callerMove_of_callerStep hid h
  · rename_i hid
    exact callerMove_of_arrive hid h

/-- A step of the loop follows one of the rules. -/
theorem loopMove_of_step {move : LoopStep}
    (h : w.step (.loop move) = some (w', events)) :
    LoopMove w move w' events := by
  simp only [step] at h
  generalize hloop : w.loop = phase at h
  unfold loopStep at h
  split at h
  · split at h
    · rename_i hshutdown
      cases h
      exact .exit hloop hshutdown
    · cases h
  · split at h
    · rename_i hboth
      simp only [Bool.and_eq_true, Bool.not_eq_true'] at hboth
      cases h
      exact .take hloop hboth.1 hboth.2
    · cases h
  · cases h
    exact .readRequests hloop
  · cases h
    exact .begin _ hloop
  · obtain ⟨next, hnext, heq⟩ := Option.map_eq_some_iff.1 h
    cases heq
    exact .columnsAnswered _ _ _ _ _ next hloop hnext
  · cases h
    exact .writeColumns _ _ _ hloop
  · obtain ⟨next, hnext, heq⟩ := Option.map_eq_some_iff.1 h
    cases heq
    exact .foreignKeysAnswered _ _ _ _ _ next hloop hnext
  · cases h
    exact .unfilable _ _ hloop
  · rename_i foreignKeys
    cases h
    exact .writeForeignKeys _ _ (.ok foreignKeys) hloop
  · rename_i e
    cases h
    exact .writeForeignKeys _ _ (.error e) hloop
  all_goals cases h
  · exact .columnsBroken _ _ _ _ hloop
  · exact .foreignKeysBroken _ _ _ _ hloop
  · exact .countRun _ hloop
  · exact .complete _ hloop

/-- A worker that is given up is as if it had been stopped, and nothing is
seen of that. -/
theorem eq_of_drop (h : w.step .drop = some (w', events)) :
    w' = { w with dismissed := true, shutdown := true } ∧ events = [] := by
  simp only [step] at h
  split at h
  · cases h
    exact ⟨rfl, rfl⟩
  · cases h

/-- A step that follows a rule can be taken. -/
theorem CallerMove.step_eq {id : Nat} {move : CallerStep ρ}
    (h : CallerMove w id move w' events) :
    w.step (.caller id move) = some (w', events) := by
  cases h with
  | refuse _ hid hstopped | bind _ hid hstopped =>
      simp [step, hid, arrive, hstopped]
  | unready hid hcompleted | readCompleted hid hcompleted =>
      simp [step, hid, arrive, hcompleted]
  | stopAgain hid hdismissed | stop hid hdismissed =>
      simp [step, hid, arrive, hdismissed]
  | request hid => simp [step, hid, arrive]
  | answered _ _ _ _ _ hid hnext => simp [step, hid, callerStep, hnext]
  | brokenOff _ _ _ hid | giveUp _ _ hid | install _ _ hid | count _ hid
  | send _ hid | readRequested _ hid | mark hid | dismiss hid =>
      simp [step, hid, callerStep]

/-- A step of the loop that follows a rule can be taken. -/
theorem LoopMove.step_eq {move : LoopStep}
    (h : LoopMove w move w' events) :
    w.step (.loop move) = some (w', events) := by
  cases h with
  | exit hloop hshutdown => simp [step, hloop, loopStep, hshutdown]
  | take hloop hsignal hshutdown =>
      simp [step, hloop, loopStep, hsignal, hshutdown]
  | columnsAnswered _ _ _ _ _ _ hloop hnext
  | foreignKeysAnswered _ _ _ _ _ _ hloop hnext =>
      simp [step, hloop, loopStep, hnext]
  | writeForeignKeys _ _ result hloop =>
      rcases result with e | foreignKeys
      · simp [step, hloop, loopStep, Except.map]
      · simp [step, hloop, loopStep, Except.map]
  | readRequests hloop | begin _ hloop | columnsBroken _ _ _ _ hloop
  | writeColumns _ _ _ hloop | foreignKeysBroken _ _ _ _ hloop
  | unfilable _ _ hloop | countRun _ hloop | complete _ hloop =>
      simp [step, hloop, loopStep]

theorem get?_goOn (w : Worker ρ) (id k : Nat) (phase : Caller ρ) :
    (w.goOn id phase).callers.get? k =
      if k = id then some phase else w.callers.get? k :=
  OrderedMap.get?_insert w.callers id k phase

theorem get?_leave (w : Worker ρ) (id k : Nat) :
    (w.leave id).callers.get? k =
      if k = id then none else w.callers.get? k :=
  OrderedMap.get?_erase w.callers id k

theorem get?_goOn_self (w : Worker ρ) (id : Nat) (phase : Caller ρ) :
    (w.goOn id phase).callers.get? id = some phase :=
  (get?_goOn w id id phase).trans (if_pos rfl)

theorem get?_leave_self (w : Worker ρ) (id : Nat) :
    (w.leave id).callers.get? id = none :=
  (get?_leave w id id).trans (if_pos rfl)

/-- Nothing but the caches is touched when a cache is updated. -/
theorem updateCache_eq (w : Worker ρ) (generation : Nat)
    (change : SchemaCache → SchemaCache) :
    ∃ caches, w.updateCache generation change = { w with caches } := by
  unfold updateCache
  split
  · split
    · exact ⟨_, rfl⟩
    · exact ⟨w.caches, rfl⟩
  · exact ⟨w.caches, rfl⟩

theorem writeColumns_eq (w : Worker ρ) (work : Assignment ρ)
    (result : Outcome ColumnIndex) :
    ∃ caches, (w.writeColumns work result).1 = { w with caches } := by
  cases result with
  | ok columns => exact updateCache_eq w work.generation _
  | error e => exact ⟨w.caches, rfl⟩

theorem writeForeignKeys_eq (w : Worker ρ) (work : Assignment ρ)
    (result : Outcome ForeignKeyIndex) :
    ∃ caches, (w.writeForeignKeys work result).1 = { w with caches } := by
  cases result with
  | ok foreignKeys => exact updateCache_eq w work.generation _
  | error e => exact ⟨w.caches, rfl⟩

namespace CallerMove

variable {id : Nat} {move : CallerStep ρ}

theorem loop_eq (h : CallerMove w id move w' events) : w'.loop = w.loop := by
  cases h <;> rfl

theorem completed_eq (h : CallerMove w id move w' events) :
    w'.completed = w.completed := by
  cases h <;> rfl

/-- A caller moves nobody but itself. -/
theorem get?_of_ne (h : CallerMove w id move w' events) {k : Nat}
    (hk : k ≠ id) : w'.callers.get? k = w.callers.get? k := by
  cases h with
  | refuse | unready | stopAgain => rfl
  | brokenOff | giveUp | send | readRequested | dismiss =>
      exact (get?_leave _ id k).trans (if_neg hk)
  | _ => exact (get?_goOn _ id k _).trans (if_neg hk)

theorem requested_eq (h : CallerMove w id move w' events)
    (hmove : move ≠ .count) : w'.requested = w.requested := by
  cases h with
  | count => exact absurd rfl hmove
  | _ => rfl

theorem requested_le (h : CallerMove w id move w' events) :
    w.requested ≤ w'.requested := by
  cases h with
  | count => exact Nat.le_succ w.requested
  | _ => exact Nat.le_refl w.requested

theorem signal_eq (h : CallerMove w id move w' events)
    (hmove : move ≠ .send) : w'.signal = w.signal := by
  cases h with
  | send => exact absurd rfl hmove
  | _ => rfl

/-- Only an installation touches what is published. -/
theorem published_eq (h : CallerMove w id move w' events)
    (hmove : move ≠ .install) :
    w'.bound = w.bound ∧ w'.caches = w.caches ∧
      w'.generation = w.generation := by
  cases h with
  | install => exact absurd rfl hmove
  | _ => exact ⟨rfl, rfl, rfl⟩

end CallerMove

namespace LoopMove

variable {move : LoopStep}

/-- The fields that the loop may write to. The signal is for one step alone,
and so are the numbers of runs and of complete requests. -/
theorem exists_eq (h : LoopMove w move w' events) :
    ∃ caches signal runs completed loop,
      w' = { w with caches, signal, runs, completed, loop } ∧
        (move ≠ .take → signal = w.signal) ∧
        (move ≠ .countRun → runs = w.runs) ∧
        (move ≠ .complete → completed = w.completed) := by
  cases h with
  | take | countRun | complete => exact ⟨_, _, _, _, _, rfl, by simp⟩
  | writeColumns requests work result =>
      obtain ⟨caches, heq⟩ := writeColumns_eq w work result
      rw [heq]
      exact ⟨caches, w.signal, w.runs, w.completed, _, rfl, by simp⟩
  | writeForeignKeys requests work result =>
      obtain ⟨caches, heq⟩ := writeForeignKeys_eq w work result
      rw [heq]
      exact ⟨caches, w.signal, w.runs, w.completed, _, rfl, by simp⟩
  | _ => exact ⟨_, _, _, _, _, rfl, by simp⟩

theorem callers_eq (h : LoopMove w move w' events) :
    w'.callers = w.callers := by
  obtain ⟨_, _, _, _, _, rfl, _⟩ := h.exists_eq
  rfl

theorem requested_eq (h : LoopMove w move w' events) :
    w'.requested = w.requested := by
  obtain ⟨_, _, _, _, _, rfl, _⟩ := h.exists_eq
  rfl

theorem completed_eq (h : LoopMove w move w' events)
    (hmove : move ≠ .complete) : w'.completed = w.completed := by
  obtain ⟨_, _, _, _, _, rfl, _, _, hcompleted⟩ := h.exists_eq
  exact hcompleted hmove

theorem signal_eq (h : LoopMove w move w' events) (hmove : move ≠ .take) :
    w'.signal = w.signal := by
  obtain ⟨_, _, _, _, _, rfl, hsignal, _⟩ := h.exists_eq
  exact hsignal hmove

end LoopMove

/-- The loop is not seen but by its warnings. -/
theorem LoopMove.exists_warning {move : LoopStep}
    (h : LoopMove w move w' events) {e : Event} (he : e ∈ events) :
    ∃ warning, e = .warning warning := by
  cases h with
  | writeColumns requests work result =>
      cases result with
      | ok columns => cases he
      | error e => exact ⟨_, List.mem_singleton.1 he⟩
  | writeForeignKeys requests work result =>
      cases result with
      | ok foreignKeys => cases he
      | error e =>
          simp only [Worker.writeForeignKeys] at he
          split at he
          · cases he
          · exact ⟨_, List.mem_singleton.1 he⟩
  | _ => cases he

/-- Nobody but a caller itself moves it. -/
theorem get?_eq_of_step {label : Label ρ} {id : Nat}
    (h : w.step label = some (w', events))
    (hlabel : ∀ move, label ≠ .caller id move) :
    w'.callers.get? id = w.callers.get? id := by
  cases label with
  | caller other move =>
      refine (callerMove_of_step h).get?_of_ne ?_
      rintro rfl
      exact hlabel move rfl
  | loop move => rw [(loopMove_of_step h).callers_eq]
  | drop => rw [(eq_of_drop h).1]

theorem completed_eq_of_step {label : Label ρ}
    (h : w.step label = some (w', events))
    (hlabel : label ≠ .loop .complete) : w'.completed = w.completed := by
  cases label with
  | caller id move => exact (callerMove_of_step h).completed_eq
  | loop move =>
      exact (loopMove_of_step h).completed_eq fun heq => hlabel (heq ▸ rfl)
  | drop => rw [(eq_of_drop h).1]

theorem requested_le_of_step {label : Label ρ}
    (h : w.step label = some (w', events)) : w.requested ≤ w'.requested := by
  cases label with
  | caller id move => exact (callerMove_of_step h).requested_le
  | loop move => exact Nat.le_of_eq (loopMove_of_step h).requested_eq.symm
  | drop => simp [(eq_of_drop h).1]

/-- A bind returns when it has left its signal. -/
theorem signalling_of_bound_mem {label : Label ρ} {caller : Nat}
    (h : w.step label = some (w', events))
    (hbound : Event.bound caller (.ok ()) ∈ events) :
    ∃ generation,
      w.callers.get? caller = some (.signalling (some generation)) := by
  cases label with
  | caller id move =>
      cases callerMove_of_step h with
      | send installed hid =>
          cases installed with
          | none => simp [returned] at hbound
          | some generation =>
              simp only [returned, List.mem_singleton, Event.bound.injEq,
                and_true] at hbound
              exact ⟨generation, hbound ▸ hid⟩
      | _ => simp at hbound
  | loop move =>
      obtain ⟨_, heq⟩ := (loopMove_of_step h).exists_warning hbound
      cases heq
  | drop =>
      rw [(eq_of_drop h).2] at hbound
      cases hbound

end Worker

end SchemaScope
