import SchemaScope.Proofs.Session.Rest

/-!
Sessions that take messages in while a refresh is in flight. The loop may go on
at any time, and it need not come to rest before the next message. To handle a
message is one way among others: to take it in, and then to let the loop go on
as long as it can. Main statement: what is answered depends on the documents
and the worker alone.
-/

namespace SchemaScope

namespace Turns

variable {σ ρ : Type} {t t' : Turns σ ρ}

/-- The same, with nobody ready and nothing to report. -/
def still (t : Turns σ ρ) : Turns σ ρ := { t.sleep with events := [] }

/-- What has been reported before makes no difference to a step. -/
theorem still_perform (h : t.still = t'.still) (hevents : t'.events = [])
    (label : Label ρ) :
    (t.perform label).still = (t'.perform label).still ∧
      (t.perform label).events = t.events ++ (t'.perform label).events := by
  have hworker := congrArg Turns.worker h
  change t.worker = t'.worker at hworker
  cases hstep : t'.worker.step label with
  | none =>
      rw [perform_of_none hstep, perform_of_none (hworker ▸ hstep), hevents,
        List.append_nil]
      exact ⟨h, rfl⟩
  | some next =>
      obtain ⟨w, events⟩ := next
      have hsleep : (t.perform label).sleep = _ :=
        sleep_perform (hworker ▸ hstep)
      have hsleep' := sleep_perform hstep
      have htaken := congrArg Turns.events hsleep
      have htaken' := congrArg Turns.events hsleep'
      change (t.perform label).events = t.events ++ events at htaken
      change (t'.perform label).events = t'.events ++ events at htaken'
      rw [hevents, List.nil_append] at htaken'
      rw [htaken, htaken', still, still, hsleep, hsleep']
      exact ⟨congrArg (fun t => { t with worker := w }) h, rfl⟩

end Turns

namespace Session

variable {s s' : Session}

/-- What can happen to a session: a message is taken in, or the loop takes a
step. -/
inductive Move where
  | said (world : World) (message : ClientMessage)
  | loop (step : LoopStep)

/-- Collect what the worker has reported. -/
def collect (s : Session) : Session × List Notice :=
  ({ s with turns := { s.turns with events := [] } },
    s.turns.warnings.map .worker)

/-- What becomes of a session by a move, and what it says. A step that the loop
cannot take changes nothing. -/
def advance (s : Session) : Move → Session × Response
  | .said world message =>
    let (s, response) := s.receive world message
    let (s, reported) := s.collect
    (s, { response with notices := response.notices ++ reported })
  | .loop step =>
    let (s, notices) := collect
      { s with turns := s.turns.perform (.loop step) }
    (s, { notices })

/-- A session after some moves. -/
def advanced (s : Session) (moves : List Move) : Session :=
  moves.foldl (fun s move => (s.advance move).1) s

/-- What a session says in the course of some moves. -/
def outcomes (s : Session) : List Move → List Response
  | [] => []
  | move :: rest => (s.advance move).2 :: (s.advance move).1.outcomes rest

theorem Same.collect (h : s.Same s') :
    s.collect.1.Same s'.collect.1 ∧ s.collect.2 = s'.collect.2 := by
  obtain ⟨_, _, hevents⟩ := Turns.same_of_sleep h.turns
  refine ⟨⟨h.documents, ?_⟩, ?_⟩
  · exact congrArg (fun t => { t with events := [] }) h.turns
  · simp only [Session.collect, Turns.warnings, hevents]

/-- A move does the same to sessions that are the same. -/
theorem Same.advance (h : s.Same s') (move : Move) :
    (s.advance move).1.Same (s'.advance move).1 ∧
      (s.advance move).2 = (s'.advance move).2 := by
  cases move with
  | said world message =>
      obtain ⟨hreceived, hresponse⟩ := h.receive world message
      obtain ⟨hsame, hreported⟩ := hreceived.collect
      refine ⟨hsame, ?_⟩
      simp only [Session.advance, hresponse, hreported]
  | loop step =>
      have hperformed :
          Same { s with turns := s.turns.perform (.loop step) }
            { s' with turns := s'.turns.perform (.loop step) } :=
        ⟨h.documents, Turns.perform_congr h.turns (.loop step)⟩
      obtain ⟨hsame, hreported⟩ := hperformed.collect
      refine ⟨hsame, ?_⟩
      simp only [Session.advance, hreported]

theorem Same.outcomes (h : s.Same s') (moves : List Move) :
    s.outcomes moves = s'.outcomes moves := by
  induction moves generalizing s s' with
  | nil => rfl
  | cons move rest ih =>
      obtain ⟨hsame, hresponse⟩ := h.advance move
      rw [Session.outcomes, Session.outcomes, hresponse, ih hsame]

/-- Between two moves nobody is in the middle of a message. -/
theorem Alone.advance (hs : s.Alone) (move : Move) :
    (s.advance move).1.Alone := by
  cases move with
  | said world message => exact ⟨absent_receive hs world message, rfl⟩
  | loop step =>
      refine ⟨Turns.keeps_perform_of_loopMove
        (P := fun w => w.callers.get? 0 = none) ?_ step hs.absent, rfl⟩
      intro w move w' events hmove hw
      rw [hmove.callers_eq]
      exact hw

theorem Alone.advanced (hs : s.Alone) (moves : List Move) :
    (s.advanced moves).Alone := by
  induction moves generalizing s with
  | nil => exact hs
  | cons move rest ih => exact ih (hs.advance move)

theorem advanced_append (s : Session) (first last : List Move) :
    s.advanced (first ++ last) = (s.advanced first).advanced last :=
  List.foldl_append

theorem outcomes_append (s : Session) (first last : List Move) :
    s.outcomes (first ++ last) =
      s.outcomes first ++ (s.advanced first).outcomes last := by
  induction first generalizing s with
  | nil => rfl
  | cons move rest ih =>
      exact congrArg ((s.advance move).2 :: ·) (ih (s.advance move).1)

/-- The loop does not touch the documents. -/
theorem documents_advanced (s : Session) (steps : List LoopStep) :
    (s.advanced (steps.map .loop)).documents = s.documents := by
  induction steps generalizing s with
  | nil => rfl
  | cons step rest ih => exact ih (s.advance (.loop step)).1

/-- The loop can lead a session to these turns. On the way it reports what is
to be reported there on top of what has been reported. -/
def LeadsTo (s : Session) (reported : List Notice)
    (t : Turns Unit Repository) : Prop :=
  ∃ steps : List LoopStep,
    t.still = (s.advanced (steps.map .loop)).turns.still ∧
    t.warnings.map Notice.worker =
      reported ++ (s.outcomes (steps.map .loop)).flatMap (·.notices)

theorem LeadsTo.perform (hs : s.Alone) {reported : List Notice}
    {t : Turns Unit Repository} (move : LoopStep)
    (h : s.LeadsTo reported t) :
    s.LeadsTo reported (t.perform (.loop move)) := by
  obtain ⟨steps, hstill, hwarnings⟩ := h
  obtain ⟨hperformed, hevents⟩ :=
    Turns.still_perform hstill (hs.advanced (steps.map .loop)).events
      (.loop move)
  refine ⟨steps ++ [move], ?_, ?_⟩
  · rw [List.map_append, advanced_append]
    exact hperformed
  · rw [List.map_append, outcomes_append, List.flatMap_append,
      ← List.append_assoc, ← hwarnings, Turns.warnings, hevents,
      List.filterMap_append, List.map_append]
    exact congrArg (_ ++ ·) (List.append_nil _).symm

/-- To handle a message is to take it in and to let the loop take some
steps. -/
theorem handle_eq_moves (hs : s.AtRest) (world : World)
    (message : ClientMessage) :
    ∃ steps : List LoopStep,
      (s.handle world message).1.Same
        (s.advanced (.said world message :: steps.map .loop)) ∧
      (s.handle world message).2 = { (s.receive world message).2 with
        notices := (s.outcomes
          (.said world message :: steps.map .loop)).flatMap (·.notices) } := by
  let received := (s.receive world message).1
  let first := (s.advance (.said world message)).1
  have hfirst : first.Alone := hs.toAlone.advance (.said world message)
  have hbegun : first.LeadsTo (received.turns.warnings.map .worker)
      received.turns.sleep :=
    ⟨[], rfl, (List.append_nil _).symm⟩
  obtain ⟨steps, hstill, hwarnings⟩ :=
    Turns.keeps_loopTurn .ofRepositories (LeadsTo.perform hfirst)
      (fun _ ht => ht) hbegun
  have hsettle := (Turns.settle_eq (prepared_receive hs world message)).1
  rw [← hsettle] at hstill hwarnings
  have hevents := (hfirst.advanced (steps.map .loop)).events
  refine ⟨steps, ⟨?_, ?_⟩, ?_⟩
  · exact (first.documents_advanced steps).symm
  · refine hstill.trans ?_
    change _ = (first.advanced (steps.map .loop)).turns.sleep
    rw [Turns.still, ← hevents]
    rfl
  · simp only [handle, rest]
    rw [hwarnings, ← List.append_assoc]
    rfl

end Session

end SchemaScope
