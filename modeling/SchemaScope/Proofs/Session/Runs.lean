import SchemaScope.Session

/-!
Sessions over several messages, each of which finds the world as it is then. A
message that names a connection does to the session what the connection does,
and answers accordingly.
-/

namespace SchemaScope

namespace ClientMessage

/-- A message that is to bind the worker. -/
def connects : ClientMessage → Bool
  | .start _ | .configure _ => true
  | _ => false

/-- The connection that a message is to be bound to. -/
def connection? (world : World) : ClientMessage → Option Connection
  | .start options =>
    match Session.connectionIn options with
    | .ok (some c) => some c
    | .ok none => (Session.fallback world).1
    | .error _ => none
  | .configure settings =>
    match Session.connectionIn (some settings) with
    | .ok named => named
    | .error _ => none
  | _ => none

end ClientMessage

namespace Session

variable {world : World} {s : Session} {c : Connection}

/-- The answer to a start that has had a connection to make. -/
def startedWith (notices : List Notice) : Outcome Unit → Response
  | .ok () => { reply := .started, notices }
  | .error e => { reply := .refused (.schema e), notices }

/-- The answer to settings that have named a connection. -/
def configuredWith : Outcome Unit → Response
  | .ok () => {}
  | .error e =>
    { notifications := [.error (StartError.schema e).message]
      notices := [.rebindFailed e] }

theorem connect_of_error {e : SchemaError}
    (h : c.connect world.database = .error e) :
    s.connect world c = (s, .error e) := by
  rw [connect, h]

theorem start_of_named {options : Option Json}
    (h : connectionIn options = .ok (some c)) :
    s.start world options =
      ((s.connect world c).1, startedWith [] (s.connect world c).2) := by
  simp only [start, h]
  rcases s.connect world c with ⟨s', e | ⟨⟩⟩
  · rfl
  · rfl

theorem start_of_fallback {options : Option Json}
    (h : connectionIn options = .ok none)
    (hfallback : (fallback world).1 = some c) :
    s.start world options =
      ((s.connect world c).1,
        startedWith (fallback world).2 (s.connect world c).2) := by
  simp only [start, h, hfallback]
  rcases s.connect world c with ⟨s', e | ⟨⟩⟩
  · rfl
  · rfl

theorem configure_of_named {settings : Json}
    (h : connectionIn (some settings) = .ok (some c)) :
    s.configure world settings =
      ((s.connect world c).1, configuredWith (s.connect world c).2) := by
  simp only [configure, h]
  rcases s.connect world c with ⟨s', e | ⟨⟩⟩
  · rfl
  · rfl

theorem receive_of_connection {message : ClientMessage}
    (hc : message.connection? world = some c) :
    ∃ respond : Outcome Unit → Response,
      (∀ e, (respond (.ok ())).reply ≠ .refused e) ∧
      ∀ s : Session, s.receive world message =
        ((s.connect world c).1, respond (s.connect world c).2) := by
  cases message with
  | start options =>
      simp only [ClientMessage.connection?] at hc
      split at hc
      · rename_i named hnamed
        cases hc
        exact ⟨startedWith [], nofun, fun s => start_of_named hnamed⟩
      · rename_i hunnamed
        exact ⟨startedWith (fallback world).2, nofun,
          fun s => start_of_fallback hunnamed hc⟩
      · cases hc
  | configure settings =>
      simp only [ClientMessage.connection?] at hc
      split at hc
      · rename_i named hnamed
        subst hc
        exact ⟨configuredWith, nofun, fun s => configure_of_named hnamed⟩
      · cases hc
  | _ => cases hc

/-- A message that is to bind the worker and names no connection does
nothing. -/
theorem receive_of_no_connection {message : ClientMessage}
    (hconnects : message.connects = true)
    (hc : message.connection? world = none) :
    ∃ response, ∀ s : Session, s.receive world message = (s, response) := by
  cases message with
  | start options =>
      simp only [ClientMessage.connection?] at hc
      split at hc
      · cases hc
      · rename_i hunnamed
        refine ⟨{ reply := .started, notices := (fallback world).2 },
          fun s => ?_⟩
        simp only [receive, start, hunnamed, hc]
      · rename_i reason hrefused
        refine ⟨{ reply := .refused (.options reason) }, fun s => ?_⟩
        simp only [receive, start, hrefused]
  | configure settings =>
      simp only [ClientMessage.connection?] at hc
      split at hc
      · rename_i named hnamed
        subst hc
        refine ⟨{}, fun s => ?_⟩
        simp only [receive, configure, hnamed]
      · rename_i reason hrefused
        refine ⟨{ notifications :=
          [.error (StartError.options reason).message] }, fun s => ?_⟩
        simp only [receive, configure, hrefused]
  | _ => cases hconnects

theorem documents_connect (world : World) (s : Session) (c : Connection) :
    (s.connect world c).1.documents = s.documents := by
  unfold connect
  split
  · rfl
  · rfl

theorem documents_receive (world : World) (s : Session)
    {message : ClientMessage} (hconnects : message.connects = true) :
    (s.receive world message).1.documents = s.documents := by
  cases hc : message.connection? world with
  | none =>
      obtain ⟨response, hreceive⟩ := receive_of_no_connection hconnects hc
      rw [hreceive]
  | some c =>
      obtain ⟨respond, _, hreceive⟩ := receive_of_connection hc
      rw [hreceive]
      exact documents_connect world s c

/-- All that a message can do to the worker: bind it, ask it for a refresh, or
stop it. -/
theorem turns_receive_cases (world : World) (s : Session)
    (message : ClientMessage) :
    (s.receive world message).1.turns = s.turns ∨
      (∃ c, message.connection? world = some c ∧
        (s.receive world message).1.turns = (s.connect world c).1.turns) ∨
      (s.receive world message).1.turns = s.turns.request 0 ∨
      (s.receive world message).1.turns = s.turns.stop 0 := by
  have hconnect : message.connects = true →
      (s.receive world message).1.turns = s.turns ∨
        ∃ c, message.connection? world = some c ∧
          (s.receive world message).1.turns = (s.connect world c).1.turns := by
    intro hconnects
    cases hc : message.connection? world with
    | none =>
        obtain ⟨response, hreceive⟩ := receive_of_no_connection hconnects hc
        exact .inl (congrArg (·.1.turns) (hreceive s))
    | some c =>
        obtain ⟨respond, _, hreceive⟩ := receive_of_connection hc
        exact .inr ⟨c, rfl, congrArg (·.1.turns) (hreceive s)⟩
  cases message with
  | start | configure => exact (hconnect rfl).imp_right .inl
  | refresh => exact .inr (.inr (.inl rfl))
  | shutdown => exact .inr (.inr (.inr rfl))
  | changed uri texts =>
      cases texts with
      | nil => exact .inl rfl
      | cons text rest => exact .inl rfl
  | _ => exact .inl rfl

theorem documents_handle (world : World) (s : Session)
    (message : ClientMessage) :
    (s.handle world message).1.documents =
      (s.receive world message).1.documents := rfl

/-- A session after some messages. -/
def after (s : Session) : List (World × ClientMessage) → Session
  | [] => s
  | (world, message) :: rest => (s.handle world message).1.after rest

/-- What is answered to some messages, one after the other. -/
def responses (s : Session) : List (World × ClientMessage) → List Response
  | [] => []
  | (world, message) :: rest =>
    (s.handle world message).2 :: (s.handle world message).1.responses rest

theorem after_append (s : Session) (first last : List (World × ClientMessage)) :
    s.after (first ++ last) = (s.after first).after last := by
  induction first generalizing s with
  | nil => rfl
  | cons message rest ih => exact ih _

/-- What a session has and every message keeps, it has after all messages. -/
theorem after_induction {P : Session → Prop} (start : P s)
    (next : ∀ s world message, P s → P (s.handle world message).1)
    (messages : List (World × ClientMessage)) : P (s.after messages) := by
  induction messages generalizing s with
  | nil => exact start
  | cons message rest ih => exact ih (next s message.1 message.2 start)

end Session

end SchemaScope
