import SchemaScope.Proofs.Session.InFlight

/-!
Connections that fail. Main statement: whatever has been said before, a message
that names no connection, or one that cannot be made, leaves the session as it
is, and all that is said later is answered as if that message had not been sent.
As long as no connection has been made there are no completions.
-/

namespace SchemaScope

namespace Session

variable {s : Session}

/-- A message binds the worker to a database. -/
def Binds (world : World) (s : Session) (message : ClientMessage) : Prop :=
  ∃ c, message.connection? world = some c ∧ (s.connect world c).2 = .ok ()

theorem not_binds_of_connection {world : World} {message : ClientMessage}
    {c : Connection} (hc : message.connection? world = some c) :
    ¬ s.Binds world message ↔ (s.connect world c).2 ≠ .ok () := by
  constructor
  · intro hfails hok
    exact hfails ⟨c, hc, hok⟩
  · rintro hfails ⟨c', hc', hok⟩
    rw [hc] at hc'
    cases hc'
    exact hfails hok

/-- A message binds the worker to nothing if it names no connection or one that
fails at some stage. -/
theorem not_binds_iff (hs : s.Alone) {world : World}
    {message : ClientMessage} :
    ¬ s.Binds world message ↔
      ∀ c, message.connection? world = some c →
        ∃ e, ConnectFails world s c e := by
  constructor
  · intro hfails c hc
    have hresult := (not_binds_of_connection hc).1 hfails
    cases herror : (s.connect world c).2 with
    | error e => exact ⟨e, (connect_error_iff hs).1 herror⟩
    | ok => exact absurd herror hresult
  · rintro hfails ⟨c, hc, hok⟩
    obtain ⟨e, he⟩ := hfails c hc
    rw [(connect_error_iff hs).2 he] at hok
    cases hok

/-- A message that binds the worker to nothing leaves nothing behind but what
there is to report, whatever the worker is in the middle of. -/
theorem receive_of_not_binds (hs : s.Alone) {world : World}
    {message : ClientMessage} (hconnects : message.connects = true)
    (hfails : ¬ s.Binds world message) :
    ∃ events, (s.receive world message).1.turns.sleep =
      { s.turns.sleep with events := events } := by
  cases hc : message.connection? world with
  | none =>
      obtain ⟨response, hreceive⟩ := receive_of_no_connection hconnects hc
      rw [hreceive]
      exact ⟨s.turns.events, rfl⟩
  | some c =>
      obtain ⟨respond, _, hreceive⟩ := receive_of_connection hc
      have hfailed := (not_binds_of_connection hc).1 hfails
      rw [hreceive]
      rcases connect_result hs world c with
        ⟨_, events, _, hsleep⟩ | ⟨_, _, _, hok, _⟩
      · exact ⟨events, hsleep⟩
      · exact absurd hok hfailed

theorem Alone.sleep_eq (hs : s.Alone) :
    { s.turns.sleep with events := [] } = s.turns.sleep := by
  rw [Turns.sleep, hs.events]

/-- A session that takes such a message in is the same as one that does not. -/
theorem same_of_not_binds (hs : s.Alone) {world : World}
    {message : ClientMessage} (hconnects : message.connects = true)
    (hfails : ¬ s.Binds world message) :
    (s.advance (.said world message)).1.Same s := by
  obtain ⟨events, hsleep⟩ := receive_of_not_binds hs hconnects hfails
  refine ⟨documents_receive world s hconnects, ?_⟩
  have hstill := congrArg (fun t => { t with events := [] }) hsleep
  exact hstill.trans hs.sleep_eq

theorem handle_of_not_binds (hs : s.AtRest) {world : World}
    {message : ClientMessage} (hconnects : message.connects = true)
    (hfails : ¬ s.Binds world message) :
    (s.handle world message).1 = { s with turns := s.turns.sleep } := by
  obtain ⟨events, hsleep⟩ := receive_of_not_binds hs.toAlone hconnects hfails
  have hsettle := (Turns.settle_eq (prepared_receive hs world message)).1
  have hidle : Turns.loopTurn .ofRepositories
      { s.turns.sleep with events := events } =
        { s.turns.sleep with events := events } :=
    Turns.loopTurn_of_idle _ hs.idle
  rw [hsleep, hidle] at hsettle
  simp only [handle, rest, hsettle, hs.sleep_eq,
    documents_receive world s hconnects]

/-- A start that is refused has bound the worker to nothing. -/
theorem not_binds_of_refused {world : World} {message : ClientMessage}
    {e : StartError}
    (h : (s.handle world message).2.reply = .refused e) :
    ¬ s.Binds world message := by
  rintro ⟨c, hc, hok⟩
  obtain ⟨respond, hrespond, hreceive⟩ := receive_of_connection hc
  have hreply : (s.handle world message).2.reply =
      (s.receive world message).2.reply := rfl
  rw [hreply, hreceive, hok] at h
  exact hrespond e h

/-- None of the messages binds the worker to a database. -/
def BindsNever (s : Session) (messages : List (World × ClientMessage)) : Prop :=
  ∀ n world message, messages[n]? = some (world, message) →
    ¬ (s.after (messages.take n)).Binds world message

theorem caches_receive (hs : s.AtRest) {world : World}
    {message : ClientMessage} (hfails : ¬ s.Binds world message) :
    (s.receive world message).1.turns.worker.caches =
      s.turns.worker.caches := by
  rcases turns_receive_cases world s message with
    hsame | ⟨c, hc, hconnect⟩ | hrequest | hstop
  · rw [hsame]
  · rw [hconnect]
    rcases connect_result hs.toAlone world c with
      ⟨_, _, _, hsleep⟩ | ⟨_, _, _, hok, _⟩
    · rw [Turns.worker_of_sleep hsleep]
      rfl
    · exact absurd hok ((not_binds_of_connection hc).1 hfails)
  · rw [hrequest, Turns.worker_request hs.absent]
    rfl
  · obtain ⟨_, _, _, hworker⟩ := Turns.worker_stop hs.absent
    rw [hstop, hworker]

/-- Only a message that binds the worker makes a session show a cache. -/
theorem caches_handle (hs : s.AtRest) {world : World}
    {message : ClientMessage} (hfails : ¬ s.Binds world message)
    (hnone : s.turns.worker.caches = []) :
    (s.handle world message).1.turns.worker.caches = [] := by
  have hsettle := (Turns.settle_eq (prepared_receive hs world message)).1
  change ((s.receive world message).1.turns.settle
    .ofRepositories).worker.caches = []
  rw [hsettle]
  refine Turns.worker_loopTurn (P := fun w => w.caches = []) ?_ .ofRepositories
    ((caches_receive hs hfails).trans hnone)
  intro w move w' events hmove hw
  have hfixed := hmove.fixed_caches
  rw [hw, List.map_nil] at hfixed
  exact List.map_eq_nil_iff.1 hfixed

theorem caches_after (hs : s.AtRest) (hnone : s.turns.worker.caches = [])
    {messages : List (World × ClientMessage)}
    (hnever : s.BindsNever messages) :
    (s.after messages).turns.worker.caches = [] := by
  induction messages generalizing s with
  | nil => exact hnone
  | cons first rest ih =>
      obtain ⟨world, message⟩ := first
      have hfirst : ¬ s.Binds world message := hnever 0 world message rfl
      refine ih (atRest_handle hs world message)
        (caches_handle hs hfirst hnone) ?_
      intro n world message hn
      exact hnever (n + 1) world message hn

/-- Without a cache there are no completions. -/
theorem reply_of_no_cache (hnone : s.turns.worker.caches = [])
    (world : World) (uri : Uri) (position : Text.Position) :
    (s.handle world (.complete uri position)).2.reply = .completions none := by
  have hcache : s.turns.worker.cache? = none := by
    rw [Worker.cache?, hnone]
    rfl
  change Reply.completions (s.completionsAt uri position) = _
  rw [completionsAt, hcache]
  rfl

/-- A session that messages can lead to. -/
def Reached (s : Session) : Prop :=
  ∃ history : List (World × ClientMessage), ({} : Session).after history = s

theorem Reached.atRest (h : s.Reached) : s.AtRest := by
  obtain ⟨history, rfl⟩ := h
  exact atRest_after history

/-- A message that is to bind the worker fails to if it names no connection, or
one that fails at some stage. It leaves the documents and the worker as they
are then, whatever the worker is in the middle of, and all that is said after
it is answered as if it had not been said, be it that a refresh is in flight and
the loop goes on in between, or that the worker comes to rest after every
message. If there was no cache before, as after a start that is refused, there
are no completions until some message binds the worker. -/
theorem failed_connection_unseen (world : World) (message : ClientMessage)
    (hconnects : message.connects = true) :
    (∀ s : Session, s.Alone →
      (¬ s.Binds world message ↔
        ∀ c, message.connection? world = some c →
          ∃ e, ConnectFails world s c e) ∧
      (¬ s.Binds world message →
        ((s.receive world message).1.documents = s.documents ∧
          (s.receive world message).1.turns.worker = s.turns.worker) ∧
        ∀ moves, (s.advance (.said world message)).1.outcomes moves =
          s.outcomes moves)) ∧
    ∀ s : Session, s.Reached → s.Alone ∧
      (∀ e, (s.handle world message).2.reply = .refused e →
        ¬ s.Binds world message) ∧
      (¬ s.Binds world message →
        ((s.handle world message).1.documents = s.documents ∧
          (s.handle world message).1.turns.worker = s.turns.worker) ∧
        (∀ later, (s.handle world message).1.responses later =
          s.responses later) ∧
        (s.turns.worker.cache? = none →
          ∀ between, (s.handle world message).1.BindsNever between →
            ∀ world' uri position,
              (((s.handle world message).1.after between).handle world'
                (.complete uri position)).2.reply = .completions none)) := by
  constructor
  · intro s hs
    refine ⟨not_binds_iff hs, fun hfails => ?_⟩
    obtain ⟨events, hsleep⟩ := receive_of_not_binds hs hconnects hfails
    have hworker := Turns.worker_of_sleep hsleep
    exact ⟨⟨documents_receive world s hconnects, hworker⟩,
      (same_of_not_binds hs hconnects hfails).outcomes⟩
  · intro s hreached
    have hs := hreached.atRest
    refine ⟨hs.toAlone, fun e hrefused => not_binds_of_refused hrefused, ?_⟩
    intro hfails
    have hhandled := handle_of_not_binds hs hconnects hfails
    have hrest := atRest_handle hs world message
    refine ⟨?_, ?_, ?_⟩
    · rw [hhandled]
      exact ⟨rfl, rfl⟩
    · intro later
      have hsame : (s.handle world message).1.Same s := by
        rw [hhandled]
        exact ⟨rfl, rfl⟩
      exact hsame.responses hrest hs later
    · intro hnone between hnever world' uri position
      have hcaches : (s.handle world message).1.turns.worker.caches = [] := by
        rw [hhandled]
        exact List.head?_eq_none_iff.1 hnone
      exact reply_of_no_cache (caches_after hrest hcaches hnever) world' uri
        position

namespace ConnectionWitness

/-- A world with one database, which is empty. -/
def world : World where
  environment := ⟨[]⟩
  files _ := .absent
  userDirectory := ""
  database source :=
    if source = "app" then .ok Sqlite.Catalog.new
    else .error "unable to open database file"

/-- Settings that name a database. -/
def settings (source : String) : Json :=
  .object [("connectionConfig", .object [("driver", .string "sqlite"),
    ("dataSourceName", .string source)])]

/-- A session that is bound and has a document. -/
def bound : List (World × ClientMessage) :=
  [.start (some (settings "app")), .opened ⟨"file:///query.sql"⟩ "m"].map
    (world, ·)

/-- A session that has been bound and whose loop has begun to ask for
columns. -/
def asking : Session :=
  ({} : Session).advanced (.said world (.start (some (settings "app"))) ::
    [.take, .readRequests, .begin].map .loop)

/-- The database that the settings name cannot be opened. -/
theorem fails_of_gone (s : Session) (c : Connection)
    (hc : (ClientMessage.configure (settings "gone")).connection? world =
      some c) :
    ∃ e, ConnectFails world s c e := by
  cases hc
  exact ⟨_, .unopened "unable to open database file" rfl rfl⟩

/-- A session that is bound is configured anew, also in the middle of a refresh,
and one that is not is started, with a database that cannot be opened. -/
theorem failed_connection_unseen_gone :
    ((({} : Session).after bound).turns.worker.cache?.isSome = true ∧
      ∀ later, ((({} : Session).after bound).handle world
        (.configure (settings "gone"))).1.responses later =
          (({} : Session).after bound).responses later) ∧
      (asking.turns.worker.loop.inFlight = true ∧
        ∀ moves, (asking.advance
          (.said world (.configure (settings "gone")))).1.outcomes moves =
            asking.outcomes moves) ∧
      (∃ e, (({} : Session).handle world
        (.start (some (settings "gone")))).2.reply = .refused e) ∧
      ∀ uri position, ((({} : Session).handle world
        (.start (some (settings "gone")))).1.handle world
          (.complete uri position)).2.reply = .completions none := by
  have hreached : (({} : Session).after bound).Reached := ⟨bound, rfl⟩
  have hinitial : ({} : Session).Reached := ⟨[], rfl⟩
  have hrefused : (({} : Session).handle world
      (.start (some (settings "gone")))).2.reply =
        .refused (.schema (.connectionFailed
          ("gone" ++ ": " ++ "unable to open database file"))) :=
    rfl
  obtain ⟨hstages, hunseen⟩ := failed_connection_unseen world
    (.configure (settings "gone")) rfl
  obtain ⟨halone, _, hkept⟩ := hunseen _ hreached
  have hfails := (hstages _ halone).1.2 (fails_of_gone _)
  obtain ⟨_, hstart⟩ := failed_connection_unseen world
    (.start (some (settings "gone"))) rfl
  obtain ⟨_, hnot, hlost⟩ := hstart _ hinitial
  obtain ⟨_, _, hnone⟩ := hlost (hnot _ hrefused)
  have hasking : asking.Alone :=
    Alone.advanced (s := {}) ⟨rfl, rfl⟩ _
  obtain ⟨hstage, hsame⟩ := hstages _ hasking
  refine ⟨⟨rfl, (hkept hfails).2.1⟩,
    ⟨rfl, (hsame (hstage.2 (fails_of_gone _))).2⟩, ⟨_, hrefused⟩,
    fun uri position => ?_⟩
  exact hnone rfl [] (fun n _ _ hn => by cases hn) world uri position

end ConnectionWitness

end Session

end SchemaScope
