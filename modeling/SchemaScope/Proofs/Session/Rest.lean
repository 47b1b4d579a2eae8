import SchemaScope.Proofs.Session.Connecting
import SchemaScope.Proofs.Worker.LoopTurn

/-!
Sessions between two messages. Main statements: whatever messages have been
handled, a session has nothing left to do, and what it answers from then on
depends on its documents and its worker alone.
-/

namespace SchemaScope

namespace Session

variable {s s' : Session}

/-- Nobody is in the middle of anything, and there is nothing to do. -/
structure AtRest (s : Session) : Prop extends s.Alone where
  ready : s.turns.ready = [.loop] ∨ s.turns.ready = []
  idle : s.turns.worker.Idle

theorem AtRest.prepared (hs : s.AtRest) : s.turns.Prepared :=
  ⟨hs.idle.inFlight, hs.ready.imp_right fun hready => ⟨hready, hs.idle⟩⟩

theorem atRest_initial : ({} : Session).AtRest where
  absent := rfl
  events := rfl
  ready := .inl rfl
  idle := .inr ⟨rfl, rfl, rfl⟩

theorem prepared_connect (hs : s.AtRest) (world : World) (c : Connection) :
    (s.connect world c).1.turns.Prepared := by
  unfold connect
  split
  · exact hs.prepared
  · exact hs.prepared.bind 0 _

theorem prepared_receive (hs : s.AtRest) (world : World)
    (message : ClientMessage) :
    (s.receive world message).1.turns.Prepared := by
  rcases turns_receive_cases world s message with
    hsame | ⟨c, _, hconnect⟩ | hrequest | hstop
  · rw [hsame]
    exact hs.prepared
  · rw [hconnect]
    exact prepared_connect hs world c
  · rw [hrequest]
    exact hs.prepared.performAll 0 [.request, .count, .send]
  · rw [hstop]
    exact hs.prepared.performAll 0 [.stop, .mark, .dismiss]

/-- Whoever brings a message has left when it is answered. -/
theorem absent_receive (hs : s.Alone) (world : World)
    (message : ClientMessage) :
    (s.receive world message).1.turns.worker.callers.get? 0 = none := by
  rcases turns_receive_cases world s message with
    hsame | ⟨c, _, hconnect⟩ | hrequest | hstop
  · rw [hsame]
    exact hs.absent
  · rw [hconnect]
    exact absent_connect hs world c
  · rw [hrequest, Turns.worker_request hs.absent]
    exact hs.absent
  · obtain ⟨_, _, _, hworker⟩ := Turns.worker_stop hs.absent
    rw [hstop, hworker]
    exact hs.absent

/-- The sessions have the same documents and the same worker. Whether the loop
has been told that it can go on is left out of account. -/
structure Same (s s' : Session) : Prop where
  documents : s.documents = s'.documents
  turns : s.turns.sleep = s'.turns.sleep

theorem Same.connect (h : s.Same s') (world : World) (c : Connection) :
    (s.connect world c).1.Same (s'.connect world c).1 ∧
      (s.connect world c).2 = (s'.connect world c).2 := by
  obtain ⟨hresult, hsleep⟩ := connect_congr h.turns world c
  refine ⟨⟨?_, hsleep⟩, hresult⟩
  rw [documents_connect, documents_connect, h.documents]

theorem Same.receive_of_connects (h : s.Same s') (world : World)
    {message : ClientMessage} (hconnects : message.connects = true) :
    (s.receive world message).1.Same (s'.receive world message).1 ∧
      (s.receive world message).2 = (s'.receive world message).2 := by
  cases hc : message.connection? world with
  | none =>
      obtain ⟨response, hreceive⟩ := receive_of_no_connection hconnects hc
      rw [hreceive, hreceive]
      exact ⟨h, rfl⟩
  | some c =>
      obtain ⟨respond, _, hreceive⟩ := receive_of_connection hc
      obtain ⟨hsame, hresult⟩ := h.connect world c
      rw [hreceive, hreceive, hresult]
      exact ⟨hsame, rfl⟩

/-- What is received depends on the documents and the worker alone. -/
theorem Same.receive (h : s.Same s') (world : World)
    (message : ClientMessage) :
    (s.receive world message).1.Same (s'.receive world message).1 ∧
      (s.receive world message).2 = (s'.receive world message).2 := by
  cases message with
  | start | configure => exact h.receive_of_connects world rfl
  | started => exact ⟨h, rfl⟩
  | opened uri text =>
      exact ⟨⟨congrArg (·.insert uri text) h.documents, h.turns⟩, rfl⟩
  | closed uri =>
      exact ⟨⟨congrArg (·.erase uri) h.documents, h.turns⟩, rfl⟩
  | changed uri texts =>
      cases texts with
      | nil => exact ⟨h, rfl⟩
      | cons text rest =>
          exact ⟨⟨congrArg (·.insert uri text) h.documents, h.turns⟩, rfl⟩
  | complete uri position =>
      obtain ⟨_, hworker, _⟩ := Turns.same_of_sleep h.turns
      refine ⟨h, ?_⟩
      simp only [Session.receive, completionsAt, hworker, h.documents]
  | refresh =>
      exact ⟨⟨h.documents, Turns.performAll_congr h.turns
        [.caller 0 .request, .caller 0 .count, .caller 0 .send]⟩, rfl⟩
  | shutdown =>
      exact ⟨⟨h.documents, Turns.performAll_congr h.turns
        [.caller 0 .stop, .caller 0 .mark, .caller 0 .dismiss]⟩, rfl⟩

/-- Whether the loop of a worker at rest has been told that it can go on makes
no difference to anything. -/
theorem Same.handle (h : s.Same s') (hs : s.AtRest) (hs' : s'.AtRest)
    (world : World) (message : ClientMessage) :
    s.handle world message = s'.handle world message := by
  obtain ⟨hsame, hresponse⟩ := h.receive world message
  have hsettle := (Turns.settle_eq (prepared_receive hs world message)).1
  have hsettle' := (Turns.settle_eq (prepared_receive hs' world message)).1
  rw [← hsame.turns, ← hsettle] at hsettle'
  simp only [Session.handle, rest, hresponse, hsame.documents, hsettle']

theorem Same.responses (h : s.Same s') (hs : s.AtRest) (hs' : s'.AtRest)
    (messages : List (World × ClientMessage)) :
    s.responses messages = s'.responses messages := by
  cases messages with
  | nil => rfl
  | cons message rest =>
      rw [Session.responses, Session.responses, h.handle hs hs']

theorem atRest_handle (hs : s.AtRest) (world : World)
    (message : ClientMessage) : (s.handle world message).1.AtRest := by
  obtain ⟨hsettle, hready, hidle⟩ :=
    Turns.settle_eq (prepared_receive hs world message)
  constructor
  · constructor
    · change ((s.receive world message).1.turns.settle
        .ofRepositories).worker.callers.get? 0 = none
      rw [hsettle]
      refine Turns.worker_loopTurn (P := fun w => w.callers.get? 0 = none)
        ?_ .ofRepositories (absent_receive hs.toAlone world message)
      intro w move w' events hmove hw
      rw [hmove.callers_eq]
      exact hw
    · rfl
  · exact .inr hready
  · exact hidle

theorem atRest_after (history : List (World × ClientMessage)) :
    (({} : Session).after history).AtRest :=
  after_induction atRest_initial
    (fun _ world message hs => atRest_handle hs world message) history

end Session

end SchemaScope
